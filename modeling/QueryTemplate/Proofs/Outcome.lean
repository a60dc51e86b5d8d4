import Mathlib.Control.Monad.Basic
import QueryTemplate.Error

/-!
# Comparing outcomes

What a computation that may fail comes to, and when two of them come to the same: both succeed with results that a
relation holds between, or both fail with errors that a relation holds between (`Alike`). Two runs are compared step by
step, with `Alike.bind` for each step. Where the first run may fail although the second does not, the second follows the
first (`Follows`).
-/

namespace QueryTemplate

/-- The variants of errors, without what an error carries. -/
inductive ErrorVariant where
  | emptyTemplate
  | parse
  | chainedPipeline
  | functionCall
  | unsupportedNode
  | unsupported
  | invalidRangeValue
  | missingValue
  | conversion
  | config
deriving DecidableEq

/-- The variant of an error. -/
def Error.variant : Error → ErrorVariant
  | .emptyTemplate => .emptyTemplate
  | .parse _ _ => .parse
  | .chainedPipeline => .chainedPipeline
  | .functionCall => .functionCall
  | .unsupportedNode _ => .unsupportedNode
  | .unsupported _ => .unsupported
  | .invalidRangeValue => .invalidRangeValue
  | .missingValue _ => .missingValue
  | .conversion _ => .conversion
  | .config => .config

/-! ## Steps that may fail -/

/-- After a step that succeeds the second step decides. -/
theorem ok_bind {ε α β : Type} (a : α) (f : α → Except ε β) : Except.ok a >>= f = f a := rfl

/-- Two steps succeed when the first does and the second does on its result. -/
theorem bind_eq_ok {ε α β : Type} {x : Except ε α} {f : α → Except ε β} {b : β} :
    x >>= f = .ok b ↔ ∃ a, x = .ok a ∧ f a = .ok b := by
  constructor
  · intro h
    cases x with
    | ok a => exact ⟨a, rfl, h⟩
    | error e => cases h
  · rintro ⟨a, rfl, h⟩
    exact h

/-- A function is applied to the result of a step that succeeds. -/
theorem map_eq_ok {ε α β : Type} {x : Except ε α} {f : α → β} {b : β} :
    x.map f = .ok b ↔ ∃ a, x = .ok a ∧ f a = b := by
  cases x <;> simp [Except.map]

/-- Steps in turn succeed when the first does and then the others do. -/
theorem mapM_cons_eq_ok {ε α β : Type} {f : α → Except ε β} {x : α} {xs : List α} {ys : List β} :
    (x :: xs).mapM f = .ok ys ↔ ∃ y rest, f x = .ok y ∧ xs.mapM f = .ok rest ∧ ys = y :: rest := by
  rw [List.mapM_cons]
  constructor
  · intro h
    obtain ⟨y, hy, h⟩ := bind_eq_ok.mp h
    obtain ⟨rest, hrest, h⟩ := bind_eq_ok.mp h
    cases h
    exact ⟨y, rest, hy, hrest, rfl⟩
  · rintro ⟨y, rest, hy, hrest, rfl⟩
    rw [hy, ok_bind, hrest, ok_bind]
    rfl

/-- What comes of steps in turn comes of one of the members. -/
theorem mem_of_mapM_eq_ok {ε α β : Type} {f : α → Except ε β} {xs : List α} {ys : List β} (h : xs.mapM f = .ok ys)
    {y : β} (hy : y ∈ ys) : ∃ x ∈ xs, f x = .ok y := by
  induction xs generalizing ys with
  | nil =>
    cases h
    cases hy
  | cons x xs ih =>
    obtain ⟨first, rest, hfirst, hrest, rfl⟩ := mapM_cons_eq_ok.mp h
    rcases List.mem_cons.mp hy with rfl | hy
    · exact ⟨x, List.mem_cons_self, hfirst⟩
    · obtain ⟨z, hz, hzy⟩ := ih hrest hy
      exact ⟨z, List.mem_cons_of_mem x hz, hzy⟩

/-- What every step keeps of the members taken so far, a sequence of steps keeps. -/
theorem foldlM_extends {ε α β : Type} {step : β → α → Except ε β} {P : List α → β → Prop} {xs : List α}
    (hstep : ∀ done b x b', x ∈ xs → P done b → step b x = .ok b' → P (done ++ [x]) b') {b b' : β} (hb : P [] b)
    (h : xs.foldlM step b = .ok b') : P xs b' := by
  suffices hafter : ∀ done b, P done b → xs.foldlM step b = .ok b' → P (done ++ xs) b' from hafter [] b hb h
  clear hb h b
  induction xs with
  | nil =>
    intro done b hb h
    cases h
    rwa [List.append_nil]
  | cons x xs ih =>
    intro done b hb h
    rw [List.foldlM_cons] at h
    obtain ⟨c, hc, h⟩ := bind_eq_ok.mp h
    have hfirst := hstep done b x c List.mem_cons_self hb hc
    have hothers := ih (fun done b y b' hy => hstep done b y b' (List.mem_cons_of_mem x hy)) (done ++ [x]) c hfirst h
    rwa [List.append_assoc] at hothers

/-- Two steps fail when the first does, or when it succeeds and the second fails on its result. -/
theorem bind_eq_error {ε α β : Type} {x : Except ε α} {f : α → Except ε β} {e : ε} :
    x >>= f = .error e ↔ x = .error e ∨ ∃ a, x = .ok a ∧ f a = .error e := by
  constructor
  · intro h
    cases x with
    | ok a => exact Or.inr ⟨a, rfl, h⟩
    | error e' => cases h; exact Or.inl rfl
  · rintro (rfl | ⟨a, rfl, h⟩)
    · rfl
    · exact h

/-- What may be missing stays alike when steps follow that are alike. -/
theorem rel_bind {α β γ δ : Type} {R : α → β → Prop} {S : γ → δ → Prop} {x : Option α} {y : Option β}
    {f : α → Option γ} {g : β → Option δ} (h : Option.Rel R x y) (hfg : ∀ a b, R a b → Option.Rel S (f a) (g b)) :
    Option.Rel S (x.bind f) (y.bind g) := by
  cases h with
  | some hab => exact hfg _ _ hab
  | none => exact Option.Rel.none

/-! ## Both outcomes at once -/

/-- Either a computation succeeds and a property holds of its result, or it fails and a property holds of its error. -/
def Ends {ε α : Type} (P : α → Prop) (E : ε → Prop) : Except ε α → Prop
  | .ok a => P a
  | .error e => E e

theorem Ends.of_eq_ok {ε α : Type} {P : α → Prop} {E : ε → Prop} {x : Except ε α} {a : α} (h : Ends P E x)
    (hx : x = .ok a) : P a := by
  subst hx
  exact h

theorem Ends.of_eq_error {ε α : Type} {P : α → Prop} {E : ε → Prop} {x : Except ε α} {e : ε} (h : Ends P E x)
    (hx : x = .error e) : E e := by
  subst hx
  exact h

theorem Ends.mono {ε α : Type} {P Q : α → Prop} {E F : ε → Prop} {x : Except ε α} (h : Ends P E x)
    (hPQ : ∀ a, P a → Q a) (hEF : ∀ e, E e → F e) : Ends Q F x := by
  cases x with
  | ok a => exact hPQ a h
  | error e => exact hEF e h

theorem Ends.bind {ε α β : Type} {P : α → Prop} {Q : β → Prop} {E : ε → Prop} {x : Except ε α} {f : α → Except ε β}
    (h : Ends P E x) (hf : ∀ a, P a → Ends Q E (f a)) : Ends Q E (x >>= f) := by
  cases x with
  | ok a => exact hf a h
  | error e => exact h

/-- What every step keeps, a sequence of steps keeps, and it fails only as one of the steps does. -/
theorem Ends.foldlM {ε α β : Type} {P : β → Prop} {E : ε → Prop} {step : β → α → Except ε β} {xs : List α}
    (hstep : ∀ b x, x ∈ xs → P b → Ends P E (step b x)) {b : β} (hb : P b) : Ends P E (xs.foldlM step b) := by
  induction xs generalizing b with
  | nil => exact hb
  | cons x xs ih =>
    rw [List.foldlM_cons]
    exact (hstep b x List.mem_cons_self hb).bind fun c hc =>
      ih (fun b y hy => hstep b y (List.mem_cons_of_mem x hy)) hc

/-! ## Outcomes that are alike -/

/-- Two outcomes that are both results, related by `R`, or both errors, related by `E`. -/
inductive Alike {α β : Type} (E : Error → Error → Prop) (R : α → β → Prop) :
    Except Error α → Except Error β → Prop where
  | ok {a : α} {b : β} : R a b → Alike E R (.ok a) (.ok b)
  | error {e e' : Error} : E e e' → Alike E R (.error e) (.error e')

/-- Outcomes stay alike when alike steps follow. -/
theorem Alike.bind {α β γ δ : Type} {E : Error → Error → Prop} {R : α → β → Prop} {S : γ → δ → Prop}
    {x : Except Error α} {y : Except Error β} {f : α → Except Error γ} {g : β → Except Error δ}
    (h : Alike E R x y) (hfg : ∀ a b, R a b → Alike E S (f a) (g b)) : Alike E S (x >>= f) (y >>= g) := by
  cases h with
  | ok hab => exact hfg _ _ hab
  | error he => exact Alike.error he

/-- An outcome is alike to itself under reflexive relations. -/
theorem Alike.refl {α : Type} {E : Error → Error → Prop} {R : α → α → Prop} (hE : ∀ e, E e e) (hR : ∀ a, R a a)
    (x : Except Error α) : Alike E R x x := by
  cases x with
  | ok a => exact Alike.ok (hR a)
  | error e => exact Alike.error (hE e)

theorem Alike.mono {α β : Type} {E : Error → Error → Prop} {R S : α → β → Prop} {x : Except Error α} {y : Except Error β}
    (h : Alike E R x y) (hRS : ∀ a b, R a b → S a b) : Alike E S x y := by
  cases h with
  | ok hab => exact Alike.ok (hRS _ _ hab)
  | error he => exact Alike.error he

/-- What holds of the first result holds beside the relation. -/
theorem Alike.with_left {α β : Type} {E : Error → Error → Prop} {R : α → β → Prop} {P : α → Prop} {x : Except Error α}
    {y : Except Error β} (h : Alike E R x y) (hP : ∀ a, x = .ok a → P a) : Alike E (fun a b => P a ∧ R a b) x y := by
  cases h with
  | ok hab => exact Alike.ok ⟨hP _ rfl, hab⟩
  | error he => exact Alike.error he

/-- Of two outcomes with equal results, if any, both are a result or neither is. -/
theorem Alike.eq_ok_iff {α : Type} {E : Error → Error → Prop} {x y : Except Error α} (h : Alike E Eq x y) (a : α) :
    x = .ok a ↔ y = .ok a := by
  cases h with
  | ok hab => rw [hab]
  | error he => exact ⟨nofun, nofun⟩

/-- What is alike to a result is a result. -/
theorem Alike.ok_left {α β : Type} {E : Error → Error → Prop} {R : α → β → Prop} {x : Except Error α}
    {y : Except Error β} {a : α} (h : Alike E R x y) (hx : x = .ok a) : ∃ b, y = .ok b ∧ R a b := by
  cases h with
  | ok hab => cases hx; exact ⟨_, rfl, hab⟩
  | error he => cases hx

/-! ## Outcomes of which the first may fail by itself -/

/-- The second outcome follows the first: both are results, related by `R`, or the same error, unless the first has
failed by itself, with an error of `F`. -/
inductive Follows {α β : Type} (F : Error → Prop) (R : α → β → Prop) : Except Error α → Except Error β → Prop where
  | ok {a : α} {b : β} : R a b → Follows F R (.ok a) (.ok b)
  | error (e : Error) : Follows F R (.error e) (.error e)
  | fails {e : Error} (he : F e) (y : Except Error β) : Follows F R (.error e) y

/-- Outcomes follow each other when steps that do so come after them. -/
theorem Follows.bind {α β γ δ : Type} {F : Error → Prop} {R : α → β → Prop} {S : γ → δ → Prop} {x : Except Error α}
    {y : Except Error β} {f : α → Except Error γ} {g : β → Except Error δ} (h : Follows F R x y)
    (hfg : ∀ a b, R a b → Follows F S (f a) (g b)) : Follows F S (x >>= f) (y >>= g) := by
  cases h with
  | ok hab => exact hfg _ _ hab
  | error e => exact Follows.error e
  | fails he y => exact Follows.fails he _

theorem Follows.mono {α β : Type} {F : Error → Prop} {R S : α → β → Prop} {x : Except Error α} {y : Except Error β}
    (h : Follows F R x y) (hRS : ∀ a b, R a b → S a b) : Follows F S x y := by
  cases h with
  | ok hab => exact Follows.ok (hRS _ _ hab)
  | error e => exact Follows.error e
  | fails he y => exact Follows.fails he y

/-- Of two outcomes that are alike the second follows the first. -/
theorem Alike.follows {α β : Type} {F : Error → Prop} {R : α → β → Prop} {x : Except Error α} {y : Except Error β}
    (h : Alike Eq R x y) : Follows F R x y := by
  cases h with
  | ok hab => exact Follows.ok hab
  | error he => cases he; exact Follows.error _

/-- Where the first outcome never fails by itself, both are alike. -/
theorem Follows.alike {α β : Type} {R : α → β → Prop} {x : Except Error α} {y : Except Error β}
    (h : Follows (fun _ => False) R x y) : Alike Eq R x y := by
  cases h with
  | ok hab => exact Alike.ok hab
  | error e => exact Alike.error rfl
  | fails he y => exact he.elim

/-- What follows a result is a result. -/
theorem Follows.ok_left {α β : Type} {F : Error → Prop} {R : α → β → Prop} {x : Except Error α}
    {y : Except Error β} {a : α} (h : Follows F R x y) (hx : x = .ok a) : ∃ b, y = .ok b ∧ R a b := by
  cases h with
  | ok hab => cases hx; exact ⟨_, rfl, hab⟩
  | error e => cases hx
  | fails he y => cases hx

/-- A result follows a result, or an outcome that has failed by itself. -/
theorem Follows.ok_right {α β : Type} {F : Error → Prop} {R : α → β → Prop} {x : Except Error α}
    {y : Except Error β} {b : β} (h : Follows F R x y) (hy : y = .ok b) :
    (∃ a, x = .ok a ∧ R a b) ∨ ∃ e, x = .error e ∧ F e := by
  cases h with
  | ok hab => cases hy; exact Or.inl ⟨_, rfl, hab⟩
  | error e => cases hy
  | fails he y => exact Or.inr ⟨_, rfl, he⟩

end QueryTemplate
