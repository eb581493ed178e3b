/-
# Builds

The harness is built with or without a linked object.  The build decides which backends there
are and which of them is used when none is asked for.
-/
import Conformance.LinkedObject
import Conformance.Native

namespace Conformance

/-- How the harness was built. -/
inductive Build where
  /-- With the native functions only. -/
  | standard
  /-- With a compiled object linked in. -/
  | linked (object : LinkedObject Unit)

namespace Build

/-- The version of the harness. -/
def version : String := "0.1.0"

/-- The names of the backends that a build lists. -/
def available : Build → List String
  | standard => ["native"]
  | linked _ => ["native", "linked"]

/-- The backend used when none is asked for: the linked object if there is one. -/
def defaultName : Build → String
  | standard => "native"
  | linked _ => "linked"

/-- The version with the default backend. -/
def fullVersion (build : Build) : String :=
  "crosscheck " ++ version ++ " (default backend: " ++ build.defaultName ++ ")"

/-- Why there is no backend of a given name.  A build without a linked object says how to get
one. -/
def unavailable (build : Build) (name : String) : Failure :=
  match build, name with
  | standard, "linked" =>
    .configuration "backend 'linked' requires building with the `linked` feature"
  | _, _ =>
    .configuration ("backend '" ++ name ++ "' is not available (available: "
      ++ ", ".intercalate build.available ++ ")")

/-- Makes the backend of a given name. -/
def backend (build : Build) (name : String) : Except Failure (Backend Unit) :=
  match name, build with
  | "native", _ => .ok (Backend.ofFunctions "native" Native.functions)
  | "linked", linked object => .ok object.backend
  | name, build => .error (build.unavailable name)

/-- The backend to run: the one asked for, or the default one. -/
def select (build : Build) (name? : Option String) : Except Failure (Backend Unit) :=
  build.backend (name?.getD build.defaultName)

end Build

end Conformance
