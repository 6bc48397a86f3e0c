import Sip.Foundation.Json

/-!
# Errors, and computations that may raise

A service call is a function into `Except Raised`. `raiseIf` is the statement
`if condition: raise error`; the lemmas below take a computation apart at such
statements, so that what a successful call has checked can be read off.
-/

namespace Sip

set_option autoImplicit false

inductive ErrorKind where
  | validation | authorization | authentication | conflict | notFound
  deriving DecidableEq

structure SIPError where
  kind : ErrorKind
  code : String
  message : String
  details : Dict := []

/-- What a call can end with instead of a result. Only `sip` carries an error of
the platform; the others come from the database and the interpreter. -/
inductive Raised where
  | sip (error : SIPError)
  | integrityError (constraint : String)
  | typeError (message : String)
  | valueError (message : String)
  | keyError (key : String)
  | attributeError (message : String)
  | overflowError (message : String)
  | fileNotFoundError (path : String)
  | osError (message : String)
  | assertionError
  | invalidTag
  | badZipFile (message : String)
  | linAlgError (message : String)

def Raised.code? : Raised → Option String
  | .sip error => some error.code
  | _ => none

def validationError (code message : String) (details : Dict := []) : Raised :=
  .sip ⟨.validation, code, message, details⟩

def authorizationError (code message : String) (details : Dict := []) : Raised :=
  .sip ⟨.authorization, code, message, details⟩

def conflictError (code message : String) (details : Dict := []) : Raised :=
  .sip ⟨.conflict, code, message, details⟩

def notFoundError (resourceType resourceId : String) : Raised :=
  .sip ⟨.notFound, "NOT_FOUND", resourceType ++ " not found",
    [("resource_type", .str resourceType), ("resource_id", .str resourceId)]⟩

section Computations
variable {α β : Type}

def raiseIf (condition : Prop) [Decidable condition] (error : Raised) : Except Raised Unit :=
  if condition then .error error else .ok ()

def orRaise (value : Option α) (error : Raised) : Except Raised α :=
  match value with
  | some a => .ok a
  | none => .error error

/-- The code a computation is refused with, if it is refused with one. -/
def refusalCode (x : Except Raised α) : Option String :=
  match x with
  | .ok _ => none
  | .error e => e.code?

theorem bind_eq_ok {ε : Type} {x : Except ε α} {f : α → Except ε β} {b : β} :
    x >>= f = .ok b ↔ ∃ a, x = .ok a ∧ f a = .ok b := by
  cases x with
  | error e =>
    constructor
    · intro h
      cases h
    · rintro ⟨_, h, _⟩
      cases h
  | ok a =>
    constructor
    · exact fun h => ⟨a, rfl, h⟩
    · rintro ⟨_, h, hb⟩
      cases h
      exact hb

theorem bind_eq_error {x : Except Raised α} {f : α → Except Raised β} {e : Raised} :
    x >>= f = .error e ↔ x = .error e ∨ ∃ a, x = .ok a ∧ f a = .error e := by
  cases x with
  | error e' =>
    constructor
    · intro h
      cases h
      exact .inl rfl
    · rintro (h | ⟨_, h, _⟩)
      · cases h
        rfl
      · cases h
  | ok a =>
    constructor
    · exact fun h => .inr ⟨a, rfl, h⟩
    · rintro (h | ⟨_, h, hb⟩)
      · cases h
      · cases h
        exact hb

theorem map_eq_ok {x : Except Raised α} {f : α → β} {b : β} : f <$> x = .ok b ↔ ∃ a, x = .ok a ∧ f a = b := by
  cases x with
  | error e =>
    constructor
    · intro h
      cases h
    · rintro ⟨_, h, _⟩
      cases h
  | ok a =>
    constructor
    · intro h
      cases h
      exact ⟨a, rfl, rfl⟩
    · rintro ⟨_, h, rfl⟩
      cases h
      rfl

theorem eq_ok_of_isOk {x : Except Raised Unit} (h : x.isOk = true) : x = .ok () := by
  cases x with
  | error e => cases h
  | ok u => rfl

theorem raiseIf_eq_ok {c : Prop} [Decidable c] {e : Raised} {u : Unit} : raiseIf c e = .ok u ↔ ¬ c := by
  by_cases hc : c <;> simp [raiseIf, hc]

theorem raiseIf_eq_error {c : Prop} [Decidable c] {e e' : Raised} : raiseIf c e = .error e' ↔ c ∧ e = e' := by
  by_cases hc : c <;> simp [raiseIf, hc]

theorem orRaise_eq_ok {value : Option α} {e : Raised} {a : α} : orRaise value e = .ok a ↔ value = some a := by
  cases value <;> simp [orRaise]

theorem orRaise_eq_error {value : Option α} {e e' : Raised} :
    orRaise value e = .error e' ↔ value = none ∧ e = e' := by
  cases value <;> simp [orRaise]

/-- A loop that ends well has done every element. -/
theorem mapM_eq_ok_mem {f : α → Except Raised β} {xs : List α} {ys : List β} (h : xs.mapM f = .ok ys) {x : α}
    (hx : x ∈ xs) : ∃ y, f x = .ok y := by
  induction xs generalizing ys with
  | nil => cases hx
  | cons a xs ih =>
    rw [List.mapM_cons, bind_eq_ok] at h
    obtain ⟨b, hb, h⟩ := h
    obtain ⟨bs, hbs, _⟩ := bind_eq_ok.mp h
    rcases List.mem_cons.mp hx with rfl | hx
    · exact ⟨b, hb⟩
    · exact ih hbs hx

theorem mapM_eq_ok_exists {f : α → Except Raised β} {xs : List α} {ys : List β} (h : xs.mapM f = .ok ys) {x : α}
    (hx : x ∈ xs) : ∃ y ∈ ys, f x = .ok y := by
  induction xs generalizing ys with
  | nil => exact absurd hx List.not_mem_nil
  | cons a xs ih =>
    rw [List.mapM_cons, bind_eq_ok] at h
    obtain ⟨b, hb, h⟩ := h
    obtain ⟨bs, hbs, hys⟩ := bind_eq_ok.mp h
    cases hys
    rcases List.mem_cons.mp hx with rfl | hx
    · exact ⟨b, List.mem_cons_self, hb⟩
    · obtain ⟨y, hy, hfy⟩ := ih hbs hx
      exact ⟨y, List.mem_cons_of_mem _ hy, hfy⟩

theorem mapM_eq_ok_of_forall {f : α → Except Raised β} {g : α → β} {xs : List α} (h : ∀ x ∈ xs, f x = .ok (g x)) :
    xs.mapM f = .ok (xs.map g) := by
  induction xs with
  | nil => rfl
  | cons x xs ih =>
    rw [List.mapM_cons, h x List.mem_cons_self, ih fun y hy => h y (List.mem_cons_of_mem x hy)]
    rfl

theorem mapM_eq_ok_iff [Inhabited β] {f : α → Except Raised β} {xs : List α} {ys : List β} :
    xs.mapM f = .ok ys ↔ (∀ x ∈ xs, ∃ y, f x = .ok y) ∧ ys = xs.map fun x => (f x).toOption.getD default := by
  have hmap : (∀ x ∈ xs, ∃ y, f x = .ok y) → xs.mapM f = .ok (xs.map fun x => (f x).toOption.getD default) := by
    intro h
    apply mapM_eq_ok_of_forall
    intro x hx
    obtain ⟨y, hy⟩ := h x hx
    rw [hy]
    rfl
  constructor
  · intro h
    have hall : ∀ x ∈ xs, ∃ y, f x = .ok y := fun x hx => mapM_eq_ok_mem h hx
    exact ⟨hall, Except.ok.inj (h.symm.trans (hmap hall))⟩
  · rintro ⟨hall, rfl⟩
    exact hmap hall

theorem forM_eq_ok {f : α → Except Raised Unit} {xs : List α} : xs.forM f = .ok () ↔ ∀ x ∈ xs, f x = .ok () := by
  induction xs with
  | nil => exact iff_of_true rfl fun _ h => absurd h List.not_mem_nil
  | cons x xs ih =>
    show f x >>= (fun _ => xs.forM f) = .ok () ↔ _
    rw [bind_eq_ok, List.forall_mem_cons, ← ih]
    exact ⟨fun ⟨_, hx, hxs⟩ => ⟨hx, hxs⟩, fun ⟨hx, hxs⟩ => ⟨(), hx, hxs⟩⟩

end Computations

end Sip
