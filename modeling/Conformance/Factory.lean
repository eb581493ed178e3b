/-
# Backend factories

A factory hands out the backends of its build.  It makes one object for each name that is asked
for, the first time it is asked, and hands out the same object from then on; a name that is not
available is an error and leaves the factory as it was.

Objects are told apart by a serial number.  Any number of factories can be in use at the same time.
Each has a cache of its own, and all of them take the numbers of their objects from one counter.
-/
import Conformance.Build

namespace Conformance

/-- A backend object: the backend it provides, and what tells it apart from others. -/
structure Instance where
  /-- The backend. -/
  backend : Backend Unit
  /-- The number the object was made with. -/
  serial : Nat

/-- The objects that a factory has made, by the name they were asked for. -/
structure Factory where
  /-- The names and the objects. -/
  cache : List (String × Instance)

namespace Factory

/-- The factory that has made nothing yet. -/
def new : Factory := ⟨[]⟩

/-- The object of a given name, made now if it was not made before; `next` is the counter. -/
def get (build : Build) (name : String) (factory : Factory) (next : Nat) :
    Except Failure Instance × Factory × Nat :=
  match factory.cache.lookup name with
  | some object => (.ok object, factory, next)
  | none =>
    match build.backend name with
    | .error failure => (.error failure, factory, next)
    | .ok backend =>
      let object : Instance := ⟨backend, next⟩
      (.ok object, ⟨(name, object) :: factory.cache⟩, next + 1)

/-- The object to run: the one asked for, or the default one. -/
def select (build : Build) (name? : Option String) (factory : Factory) (next : Nat) :
    Except Failure Instance × Factory × Nat :=
  factory.get build (name?.getD build.defaultName) next

end Factory

/-- Factories that are in use at the same time, by their numbers, and the counter of the objects. -/
structure Factories where
  /-- The factory of a number. -/
  factory : Nat → Factory
  /-- The number of the next object. -/
  next : Nat

namespace Factories

/-- Factories that have made nothing yet, with a counter that begins at `next`. -/
def new (next : Nat) : Factories := ⟨fun _ => .new, next⟩

/-- Puts a factory in the place of what it was before. -/
def put (factories : Factories) (i : Nat) (factory : Factory) (next : Nat) : Factories :=
  ⟨fun j => if j = i then factory else factories.factory j, next⟩

/-- What a factory can be asked; `i` is its number. -/
inductive Request where
  /-- List the available names. -/
  | available (i : Nat)
  /-- Hand out the object of a name. -/
  | get (i : Nat) (name : String)
  /-- Hand out the object to run. -/
  | select (i : Nat) (name? : Option String)
  deriving DecidableEq

/-- What a factory answers. -/
inductive Answer where
  /-- The available names. -/
  | names (names : List String)
  /-- An object. -/
  | handed (object : Instance)
  /-- The request failed. -/
  | failed (failure : Failure)

/-- The answer that a request for an object gives. -/
def Answer.ofResult : Except Failure Instance → Answer
  | .ok object => .handed object
  | .error failure => .failed failure

/-- Answers one request. -/
def step (build : Build) (factories : Factories) : Request → Answer × Factories
  | .available _ => (.names build.available, factories)
  | .get i name =>
    let (result, factory, next) := (factories.factory i).get build name factories.next
    (.ofResult result, factories.put i factory next)
  | .select i name? =>
    let (result, factory, next) := (factories.factory i).select build name? factories.next
    (.ofResult result, factories.put i factory next)

/-- Answers requests in order. -/
def answers (build : Build) : List Request → Factories → List Answer
  | [], _ => []
  | request :: rest, factories =>
    let (answer, factories) := factories.step build request
    answer :: answers build rest factories

end Factories

end Conformance
