/-
# Histories of factories

Factories are asked for objects again and again, by name or for the default one, and the requests to
different factories may come in any order.  What a factory answers depends on the name alone: a name
of the build is handed out, any other name is refused with the same error whenever it is asked for.
What the earlier requests decide is only *which* object is handed out, and two requests are given
the same object if and only if they ask the same factory for the same name.

The names that a build lists, the backends it makes and the names of those backends are three
separate tables.  `Build.backend_cases` says that they agree.

`Serves build fs request answer fs'` lists what one request can do, and everything about a single
request is read off its four cases.  `Stocked build fs` is what the factories of a history satisfy:
each object is cached under the name its backend was found by, and no two places, of one factory or
of two, hold objects of the same number.  Since nothing is ever taken out of a cache, the objects of
two requests can be compared in the factories that the later request leaves.

The main result is `Factories.one_object_per_name`.
-/
import Conformance.Factory
import Mathlib.Data.List.Basic

namespace Conformance

/-! ## Backends by name -/

namespace Build

variable {build : Build} {name : String}

/-- A name is listed and its backend is made under that name, or it is not listed and refused. -/
lemma backend_cases (build : Build) (name : String) :
    (name ∈ build.available ∧ ∃ backend, build.backend name = .ok backend ∧ backend.name = name) ∨
    (name ∉ build.available ∧ build.backend name = .error (build.unavailable name)) := by
  unfold backend
  split
  · exact .inl ⟨by cases build <;> simp [available], _, rfl, rfl⟩
  · exact .inl ⟨by simp [available], _, rfl, rfl⟩
  · rename_i hnative hlinked
    refine .inr ⟨?_, rfl⟩
    cases build with
    | standard => simpa [available] using hnative
    | linked object =>
      have hname : name ≠ "linked" := fun h => hlinked object h rfl
      simpa [available, hname] using hnative

lemma name_of_backend_eq_ok {backend : Backend Unit} (h : build.backend name = .ok backend) :
    backend.name = name := by
  rcases build.backend_cases name with ⟨-, made, hmade, hname⟩ | ⟨-, herror⟩
  · obtain rfl := Except.ok.inj (h.symm.trans hmade)
    exact hname
  · cases h.symm.trans herror

lemma exists_backend_of_mem (h : name ∈ build.available) :
    ∃ backend, build.backend name = .ok backend := by
  rcases build.backend_cases name with ⟨-, backend, hbackend, -⟩ | ⟨hmem, -⟩
  · exact ⟨backend, hbackend⟩
  · exact absurd h hmem

lemma backend_of_notMem (h : name ∉ build.available) :
    build.backend name = .error (build.unavailable name) := by
  rcases build.backend_cases name with ⟨hmem, -⟩ | ⟨-, herror⟩
  · exact absurd hmem h
  · exact herror

lemma exists_unavailable_eq (build : Build) (name : String) :
    ∃ reason, build.unavailable name = .configuration reason := by
  unfold unavailable
  split <;> exact ⟨_, rfl⟩

end Build

namespace Factories

/-- The factory that a request is made to. -/
def Request.target : Request → ℕ
  | available i | get i _ | select i _ => i

/-- The name that a request asks for. -/
def Request.name? (build : Build) : Request → Option String
  | available _ => none
  | get _ name => some name
  | select _ name? => some (name?.getD build.defaultName)

/-- The request failed. -/
def Answer.isFailed : Answer → Bool
  | failed _ => true
  | _ => false

/-- The factories that are left when all the requests are answered. -/
def after (build : Build) : List Request → Factories → Factories
  | [], fs => fs
  | request :: rest, fs => after build rest (fs.step build request).2

/-- The object that a factory keeps under a name. -/
def object? (fs : Factories) (i : ℕ) (name : String) : Option Instance :=
  (fs.factory i).cache.lookup name

/-- A backend is made into an object, with the next number, and kept under a name. -/
def stock (fs : Factories) (i : ℕ) (name : String) (backend : Backend Unit) : Factories :=
  fs.put i ⟨(name, ⟨backend, fs.next⟩) :: (fs.factory i).cache⟩ (fs.next + 1)

@[simp] lemma object?_new (next i : ℕ) (name : String) : (new next).object? i name = none := rfl

@[simp] lemma put_self (fs : Factories) (i : ℕ) : fs.put i (fs.factory i) fs.next = fs := by
  have hsame : (fun j => if j = i then fs.factory i else fs.factory j) = fs.factory := by
    funext j
    split
    · next h => rw [h]
    · rfl
  rw [put, hsame]

lemma object?_stock (fs : Factories) (i j : ℕ) (name asked : String) (backend : Backend Unit) :
    (fs.stock i name backend).object? j asked =
      if j = i ∧ asked = name then some ⟨backend, fs.next⟩ else fs.object? j asked := by
  by_cases hj : j = i
  · subst hj
    by_cases hasked : asked = name
    · simp [object?, stock, put, hasked]
    · simp [object?, stock, put, List.lookup_cons, beq_false_of_ne hasked, hasked]
  · simp [object?, stock, put, hj]

/-! ## One request -/

/-- A request is answered and leaves other factories. -/
inductive Serves (build : Build) (fs : Factories) : Request → Answer → Factories → Prop
  | available {i : ℕ} : Serves build fs (.available i) (.names build.available) fs
  | found {request : Request} {name : String} {object : Instance}
      (hname : request.name? build = some name)
      (hobject : fs.object? request.target name = some object) :
      Serves build fs request (.handed object) fs
  | refused {request : Request} {name : String} {failure : Failure}
      (hname : request.name? build = some name)
      (hobject : fs.object? request.target name = none)
      (hbackend : build.backend name = .error failure) :
      Serves build fs request (.failed failure) fs
  | made {request : Request} {name : String} {backend : Backend Unit}
      (hname : request.name? build = some name)
      (hobject : fs.object? request.target name = none)
      (hbackend : build.backend name = .ok backend) :
      Serves build fs request (.handed ⟨backend, fs.next⟩) (fs.stock request.target name backend)

variable {build : Build} {fs fs' : Factories} {request : Request} {answer : Answer}
  {name : String} {object : Instance} {i : ℕ}

lemma serves_get (hname : request.name? build = some name) (htarget : request.target = i) :
    let (result, factory, next) := (fs.factory i).get build name fs.next
    Serves build fs request (.ofResult result) (fs.put i factory next) := by
  subst htarget
  rcases hobject : (fs.factory request.target).cache.lookup name with _ | object
  · rcases hbackend : build.backend name with failure | backend
    · simp only [Factory.get, hobject, hbackend, put_self]
      exact .refused hname hobject hbackend
    · simp only [Factory.get, hobject, hbackend]
      exact .made hname hobject hbackend
  · simp only [Factory.get, hobject, put_self]
    exact .found hname hobject

lemma serves_step (build : Build) (fs : Factories) (request : Request) :
    Serves build fs request (fs.step build request).1 (fs.step build request).2 := by
  cases request with
  | available i => exact .available
  | get i name => exact serves_get rfl rfl
  | select i name? => exact serves_get rfl rfl

/-- The objects are kept under the names of their backends, and have different numbers below the
next one. -/
structure Stocked (build : Build) (fs : Factories) : Prop where
  backend_eq : ∀ {i name object}, fs.object? i name = some object →
    build.backend name = .ok object.backend
  serial_lt_next : ∀ {i name object}, fs.object? i name = some object → object.serial < fs.next
  place_eq : ∀ {i j name name' object object'}, fs.object? i name = some object →
    fs.object? j name' = some object' → object.serial = object'.serial → i = j ∧ name = name'

lemma stocked_new (build : Build) (next : ℕ) : Stocked build (new next) where
  backend_eq := by simp
  serial_lt_next := by simp
  place_eq := by simp

/-- An object of a factory with one more is the new one or was there before. -/
lemma object?_stock_cases {j : ℕ} {asked : String} {backend : Backend Unit}
    (h : (fs.stock i name backend).object? j asked = some object) :
    (j = i ∧ asked = name ∧ object = ⟨backend, fs.next⟩) ∨ fs.object? j asked = some object := by
  rw [object?_stock] at h
  split at h
  · next hplace => exact .inl ⟨hplace.1, hplace.2, (Option.some.inj h).symm⟩
  · exact .inr h

/-- An object made with the next number keeps the numbers different. -/
lemma Stocked.stock {backend : Backend Unit} (hfs : Stocked build fs)
    (hbackend : build.backend name = .ok backend) : Stocked build (fs.stock i name backend) where
  backend_eq h := by
    obtain ⟨rfl, rfl, rfl⟩ | hold := object?_stock_cases h
    · exact hbackend
    · exact hfs.backend_eq hold
  serial_lt_next h := by
    obtain ⟨rfl, rfl, rfl⟩ | hold := object?_stock_cases h
    · exact Nat.lt_succ_self _
    · exact Nat.lt_succ_of_lt (hfs.serial_lt_next hold)
  place_eq h h' hserial := by
    obtain ⟨rfl, rfl, rfl⟩ | hold := object?_stock_cases h <;>
      obtain ⟨rfl, rfl, rfl⟩ | hold' := object?_stock_cases h'
    · exact ⟨rfl, rfl⟩
    · exact absurd hserial.symm (Nat.ne_of_lt (hfs.serial_lt_next hold'))
    · exact absurd hserial (Nat.ne_of_lt (hfs.serial_lt_next hold))
    · exact hfs.place_eq hold hold' hserial

namespace Serves

lemma stocked (h : Serves build fs request answer fs') (hfs : Stocked build fs) :
    Stocked build fs' := by
  cases h with
  | available => exact hfs
  | found => exact hfs
  | refused => exact hfs
  | made _ _ hbackend => exact hfs.stock hbackend

lemma eq_names (h : Serves build fs (.available i) answer fs') :
    answer = .names build.available := by
  cases h with
  | available => rfl
  | found hname => cases hname
  | refused hname => cases hname
  | made hname => cases hname

lemma eq_of_failed {failure : Failure} (h : Serves build fs request (.failed failure) fs') :
    fs' = fs := by
  cases h with
  | refused => rfl

/-- Nothing is taken out of a cache. -/
lemma object?_eq (h : Serves build fs request answer fs')
    (hobject : fs.object? i name = some object) : fs'.object? i name = some object := by
  cases h with
  | available => exact hobject
  | found => exact hobject
  | refused => exact hobject
  | @made _ asked _ _ hnone _ =>
    have hplace : ¬ (i = request.target ∧ name = asked) := by
      rintro ⟨rfl, rfl⟩
      rw [hnone] at hobject
      cases hobject
    rw [object?_stock, if_neg hplace]
    exact hobject

/-- What becomes of a request for a name: the object is found, the name is refused, or the object is
made. -/
lemma of_name (h : Serves build fs request answer fs') (hname : request.name? build = some name) :
    (∃ object, fs.object? request.target name = some object ∧ answer = .handed object ∧ fs' = fs) ∨
    (∃ failure, build.backend name = .error failure ∧ answer = .failed failure ∧ fs' = fs) ∨
    (∃ backend, build.backend name = .ok backend ∧ answer = .handed ⟨backend, fs.next⟩ ∧
      fs' = fs.stock request.target name backend) := by
  cases h with
  | available => cases hname
  | @found _ _ object hasked hobject =>
    obtain rfl := Option.some.inj (hname.symm.trans hasked)
    exact .inl ⟨object, hobject, rfl, rfl⟩
  | @refused _ _ failure hasked _ hbackend =>
    obtain rfl := Option.some.inj (hname.symm.trans hasked)
    exact .inr (.inl ⟨failure, hbackend, rfl, rfl⟩)
  | @made _ _ backend hasked _ hbackend =>
    obtain rfl := Option.some.inj (hname.symm.trans hasked)
    exact .inr (.inr ⟨backend, hbackend, rfl, rfl⟩)

/-- An object that is handed out is in the cache afterwards. -/
lemma object?_of_handed (h : Serves build fs request (.handed object) fs')
    (hname : request.name? build = some name) :
    fs'.object? request.target name = some object := by
  rcases h.of_name hname with
    ⟨found, hfound, hanswer, rfl⟩ | ⟨failure, -, hanswer, -⟩ | ⟨backend, -, hanswer, rfl⟩
  · obtain rfl := Answer.handed.inj hanswer
    exact hfound
  · cases hanswer
  · obtain rfl := Answer.handed.inj hanswer
    rw [object?_stock, if_pos ⟨rfl, rfl⟩]

lemma handed_of_mem (h : Serves build fs request answer fs') (hfs : Stocked build fs)
    (hname : request.name? build = some name) (hmem : name ∈ build.available) :
    ∃ object, answer = .handed object ∧ build.backend name = .ok object.backend := by
  obtain ⟨backend, hbackend⟩ := Build.exists_backend_of_mem hmem
  rcases h.of_name hname with
    ⟨object, hobject, rfl, -⟩ | ⟨failure, herror, -, -⟩ | ⟨backend', hok, rfl, -⟩
  · exact ⟨object, rfl, hfs.backend_eq hobject⟩
  · cases hbackend.symm.trans herror
  · exact ⟨_, rfl, hok⟩

lemma failed_of_notMem (h : Serves build fs request answer fs') (hfs : Stocked build fs)
    (hname : request.name? build = some name) (hmem : name ∉ build.available) :
    answer = .failed (build.unavailable name) := by
  have hbackend := Build.backend_of_notMem hmem
  rcases h.of_name hname with
    ⟨object, hobject, -, -⟩ | ⟨failure, herror, rfl, -⟩ | ⟨backend, hok, -, -⟩
  · -- a name that is not available was never cached
    cases hbackend.symm.trans (hfs.backend_eq hobject)
  · rw [Except.error.inj (hbackend.symm.trans herror)]
  · cases hbackend.symm.trans hok

end Serves

/-! ## Whole histories -/

lemma after_append (build : Build) (requests more : List Request) (fs : Factories) :
    fs.after build (requests ++ more) = (fs.after build requests).after build more := by
  induction requests generalizing fs with
  | nil => rfl
  | cons request rest ih => exact ih _

/-- Each position of a history is one request, served by the factories that the requests before it
leave. -/
lemma exists_serves (build : Build) (fs : Factories) {requests : List Request} {i : ℕ}
    (h : requests[i]? = some request) :
    ∃ answer, (fs.answers build requests)[i]? = some answer ∧
      Serves build (fs.after build (requests.take i)) request answer
        (fs.after build (requests.take (i + 1))) := by
  induction requests generalizing fs i with
  | nil => simp at h
  | cons head rest ih =>
    cases i with
    | zero =>
      obtain rfl : head = request := by simpa using h
      exact ⟨(fs.step build head).1, rfl, serves_step build fs head⟩
    | succ i => exact ih (fs.step build head).2 (by simpa using h)

lemma Stocked.after (hfs : Stocked build fs) (requests : List Request) :
    Stocked build (fs.after build requests) := by
  induction requests generalizing fs with
  | nil => exact hfs
  | cons request rest ih => exact ih ((serves_step build fs request).stocked hfs)

lemma object?_after (requests : List Request) (hobject : fs.object? i name = some object) :
    (fs.after build requests).object? i name = some object := by
  induction requests generalizing fs with
  | nil => exact hobject
  | cons request rest ih => exact ih ((serves_step build fs request).object?_eq hobject)

/-- An object that was handed out is kept by every later request. -/
lemma object?_after_take {requests : List Request} {i j k : ℕ} (hij : i ≤ j)
    (hobject : (fs.after build (requests.take i)).object? k name = some object) :
    (fs.after build (requests.take j)).object? k name = some object := by
  have hsplit : requests.take j = requests.take i ++ (requests.take j).drop i := by
    have htake : (requests.take j).take i = requests.take i := by
      rw [List.take_take, Nat.min_eq_left hij]
    rw [← htake, List.take_append_drop]
  rw [hsplit, after_append]
  exact object?_after _ hobject

lemma length_answers (build : Build) (fs : Factories) (requests : List Request) :
    (fs.answers build requests).length = requests.length := by
  induction requests generalizing fs with
  | nil => rfl
  | cons request rest ih => exact congrArg (· + 1) (ih _)

/-- The requests that fail may be left out: the others are answered as before. -/
lemma answers_drop_failed (build : Build) (fs : Factories) (requests : List Request) :
    let kept := (requests.zip (fs.answers build requests)).filter fun entry => !entry.2.isFailed
    fs.answers build (kept.map Prod.fst) = kept.map Prod.snd := by
  induction requests generalizing fs with
  | nil => rfl
  | cons request rest ih =>
    have hserves := serves_step build fs request
    have hstep : fs.answers build (request :: rest) =
        (fs.step build request).1 :: (fs.step build request).2.answers build rest := rfl
    rcases hfailed : (fs.step build request).1.isFailed with _ | _
    · simp only [hstep, List.zip_cons_cons, List.filter_cons, hfailed, Bool.not_false, if_true,
        List.map_cons]
      exact congrArg _ (ih (fs.step build request).2)
    · have hsame : (fs.step build request).2 = fs := by
        rcases hanswer : (fs.step build request).1 with names | object | failure
        case failed =>
          rw [hanswer] at hserves
          exact hserves.eq_of_failed
        all_goals simp [hanswer, Answer.isFailed] at hfailed
      simp only [hstep, List.zip_cons_cons, List.filter_cons, hfailed, Bool.not_true,
        Bool.false_eq_true, if_false, hsame]
      exact ih fs

/-! ## The same object -/

variable {request' : Request} {name' : String} {object' : Instance} {requests : List Request}
  {j : ℕ}

/-- Both objects are in the caches that the later request leaves, and there a number has one
place. -/
lemma same_object_iff (hfs : Stocked build fs)
    (hi : requests[i]? = some request) (hj : requests[j]? = some request')
    (hname : request.name? build = some name) (hname' : request'.name? build = some name')
    (hobject : (fs.answers build requests)[i]? = some (.handed object))
    (hobject' : (fs.answers build requests)[j]? = some (.handed object')) :
    (object = object' ↔ request.target = request'.target ∧ name = name') ∧
    (object.serial = object'.serial ↔ request.target = request'.target ∧ name = name') := by
  obtain ⟨answer, hanswer, hserves⟩ := exists_serves build fs hi
  obtain ⟨answer', hanswer', hserves'⟩ := exists_serves build fs hj
  obtain rfl := Option.some.inj (hanswer.symm.trans hobject)
  obtain rfl := Option.some.inj (hanswer'.symm.trans hobject')
  have hkept := object?_after_take (j := max i j + 1) (by omega)
    (hserves.object?_of_handed hname)
  have hkept' := object?_after_take (j := max i j + 1) (by omega)
    (hserves'.object?_of_handed hname')
  have hplace : object.serial = object'.serial → request.target = request'.target ∧ name = name' :=
    (hfs.after _).place_eq hkept hkept'
  have hsame : request.target = request'.target ∧ name = name' → object = object' := by
    rintro ⟨htarget, rfl⟩
    rw [htarget] at hkept
    exact Option.some.inj (hkept.symm.trans hkept')
  exact ⟨⟨fun h => hplace (congrArg Instance.serial h), hsame⟩,
    ⟨hplace, fun h => congrArg Instance.serial (hsame h)⟩⟩

/-- **One object per factory and name**, in every history of requests to any number of factories.

An available name is handed out, with the backend of that name; any other name is refused with an
error of the configuration that depends on the name only.  Two objects are the same if and only if
they were asked for by the same name and from the same factory.  A request that fails leaves the
factories as they are, and without the failing requests all others are answered as before. -/
theorem one_object_per_name (build : Build) (next : ℕ) (requests : List Request) :
    let given : List Answer := (new next).answers build requests
    let kept := (requests.zip given).filter fun entry => !entry.2.isFailed
    given.length = requests.length ∧
    (∀ i k : ℕ, requests[i]? = some (.available k) →
      given[i]? = some (.names build.available)) ∧
    (∀ (i : ℕ) (request : Request) (name : String),
      requests[i]? = some request → request.name? build = some name →
      (name ∈ build.available → ∃ object, given[i]? = some (.handed object) ∧
        build.backend name = .ok object.backend ∧ object.backend.name = name) ∧
      (name ∉ build.available → given[i]? = some (.failed (build.unavailable name)) ∧
        ∃ reason, build.unavailable name = .configuration reason)) ∧
    (∀ (i j : ℕ) (request request' : Request) (name name' : String) (object object' : Instance),
      requests[i]? = some request → requests[j]? = some request' →
      request.name? build = some name → request'.name? build = some name' →
      given[i]? = some (.handed object) → given[j]? = some (.handed object') →
      (object = object' ↔ request.target = request'.target ∧ name = name') ∧
      (object.serial = object'.serial ↔ request.target = request'.target ∧ name = name')) ∧
    (∀ (i : ℕ) (failure : Failure), given[i]? = some (.failed failure) →
      (new next).after build (requests.take (i + 1)) =
        (new next).after build (requests.take i)) ∧
    (new next).answers build (kept.map Prod.fst) = kept.map Prod.snd := by
  intro given kept
  have hnew : Stocked build (new next) := stocked_new build next
  refine ⟨length_answers _ _ _, ?_, ?_, ?_, ?_, answers_drop_failed _ _ _⟩
  · intro i k hi
    obtain ⟨answer, hanswer, hserves⟩ := exists_serves build (new next) hi
    rw [hanswer, hserves.eq_names]
  · intro i request name hi hname
    obtain ⟨answer, hanswer, hserves⟩ := exists_serves build (new next) hi
    have hstocked := hnew.after (requests.take i)
    constructor
    · intro hmem
      obtain ⟨object, rfl, hbackend⟩ := hserves.handed_of_mem hstocked hname hmem
      exact ⟨object, hanswer, hbackend, Build.name_of_backend_eq_ok hbackend⟩
    · intro hmem
      obtain rfl := hserves.failed_of_notMem hstocked hname hmem
      exact ⟨hanswer, build.exists_unavailable_eq name⟩
  · intro i j request request' name name' object object' hi hj hname hname' hobject hobject'
    exact same_object_iff hnew hi hj hname hname' hobject hobject'
  · intro i failure hfailed
    have hlength : i < requests.length := by
      rw [← length_answers build (new next) requests]
      exact (List.getElem?_eq_some_iff.1 hfailed).1
    obtain ⟨answer, hanswer, hserves⟩ :=
      exists_serves build (new next) (List.getElem?_eq_getElem hlength)
    obtain rfl := Option.some.inj (hanswer.symm.trans hfailed)
    exact hserves.eq_of_failed

end Factories

end Conformance
