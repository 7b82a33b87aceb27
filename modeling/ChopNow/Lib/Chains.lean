import Mathlib.Logic.Relation
import Mathlib.Tactic

/-! Links that leave a thing at most once, reach a thing at most once and never lead back:
what they connect are chains, each with one end at most. -/

namespace Chains

open Relation

variable {α : Type*} {next : α → α → Prop} {x y : α}

structure Chained (next : α → α → Prop) : Prop where
  oneNext : ∀ x y z, next x y → next x z → y = z
  onePrevious : ∀ x y z, next x z → next y z → x = y
  acyclic : ∀ x, ¬TransGen next x x

/-- A measure that every link increases leaves no way back. -/
theorem acyclic_of_lt (f : α → ℕ) (h : ∀ x y, next x y → f x < f y) (x : α) : ¬TransGen next x x := by
  have hlt : ∀ y, TransGen next x y → f x < f y := fun y hxy => by
    induction hxy with
    | single hstep => exact h _ _ hstep
    | tail _ hstep ih => exact ih.trans (h _ _ hstep)
  exact fun hx => lt_irrefl _ (hlt x hx)

/-- Of two things on one chain, one leads to the other. -/
theorem Chained.comparable (h : Chained next) (hxy : EqvGen next x y) :
    ReflTransGen next x y ∨ ReflTransGen next y x := by
  induction hxy with
  | rel x y hstep => exact .inl (.single hstep)
  | refl x => exact .inl .refl
  | symm x y _ ih => exact ih.symm
  | trans x y z _ _ ihxy ihyz =>
    rcases ihxy with hxy | hyx <;> rcases ihyz with hyz | hzy
    · exact .inl (hxy.trans hyz)
    · have hback := ReflTransGen.total_of_right_unique (r := Function.swap next)
        (fun a b c hab hac => h.onePrevious b c a hab hac)
        (reflTransGen_swap.2 hxy) (reflTransGen_swap.2 hzy)
      exact hback.symm.imp reflTransGen_swap.1 reflTransGen_swap.1
    · exact ReflTransGen.total_of_right_unique h.oneNext hyx hyz
    · exact .inr (hzy.trans hyx)

/-- A chain has one end. -/
theorem Chained.end_unique (h : Chained next) (hxy : EqvGen next x y) (hx : ∀ z, ¬next x z) (hy : ∀ z, ¬next y z) :
    x = y := by
  have hstays : ∀ {a b}, ReflTransGen next a b → (∀ z, ¬next a z) → a = b := fun hab ha => by
    rcases hab.cases_head with hab | ⟨c, hstep, -⟩
    · exact hab
    · exact absurd hstep (ha c)
  rcases h.comparable hxy with hxy | hyx
  · exact hstays hxy hx
  · exact (hstays hyx hy).symm

end Chains
