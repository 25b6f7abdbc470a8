import ContainerBuild.Path
import Mathlib.Data.List.Lex

/-!
# The order of components

Stores are sorted by the components of their paths: lexicographically, components by their kind, and
two names by their bytes. This is a strict linear order, so of two different lists of components
exactly one comes before the other.

* `Path.componentsBefore_iff` — the order is the lexicographic one over components.
* `Path.componentsBefore_irrefl`, `Path.componentsBefore_trans`, `Path.componentsBefore_total` —
  the laws of a strict linear order.
* `Path.not_before_of_prefix`, `Path.append_before` — what lies below a place comes right behind it.
-/

namespace ContainerBuild.Path

theorem bytesBefore_iff (a b : Bytes) : bytesBefore a b = true ↔ a < b := by
  induction a generalizing b with
  | nil => cases b <;> simp [bytesBefore]
  | cons x xs ih => cases b <;> simp [bytesBefore, ih, List.cons_lt_cons_iff]

namespace Component

/-- A component comes before those of later kinds, and a name also before greater names. -/
theorem before_iff (a b : Component) :
    a.before b = true ↔ a.rank < b.rank ∨ ∃ m n, a = normal m ∧ b = normal n ∧ m < n := by
  cases a <;> cases b <;> simp [before, rank, bytesBefore_iff]

theorem before_irrefl (a : Component) : ¬a.before a = true := by
  rw [before_iff]
  rintro (hrank | ⟨m, n, hm, hn, hlt⟩)
  · exact Nat.lt_irrefl _ hrank
  · obtain rfl : m = n := normal.inj (hm.symm.trans hn)
    exact List.lt_irrefl m hlt

theorem before_trans {a b c : Component} (hab : a.before b = true) (hbc : b.before c = true) :
    a.before c = true := by
  rw [before_iff] at *
  rcases hab with hab | ⟨m, n, rfl, rfl, hmn⟩ <;> rcases hbc with hbc | ⟨n', k, hn, rfl, hnk⟩
  · exact .inl (Nat.lt_trans hab hbc)
  · subst hn
    exact .inl hab
  · exact .inl hbc
  · cases hn
    exact .inr ⟨m, k, rfl, rfl, List.lt_trans hmn hnk⟩

theorem before_total {a b : Component} (hab : ¬a.before b = true) (hba : ¬b.before a = true) :
    a = b := by
  rw [before_iff, not_or] at hab hba
  have hrank : a.rank = b.rank := by omega
  cases a <;> cases b <;> first | rfl | simp [rank] at hrank
  next m n =>
    -- two names of which neither is less than the other
    have hmn : ¬m < n := fun hlt => hab.2 ⟨m, n, rfl, rfl, hlt⟩
    have hnm : ¬n < m := fun hlt => hba.2 ⟨n, m, rfl, rfl, hlt⟩
    rw [List.le_antisymm (List.not_lt.1 hnm) (List.not_lt.1 hmn)]

end Component

theorem componentsBefore_iff (as bs : List Component) :
    componentsBefore as bs = true ↔ List.Lex (fun a b => a.before b = true) as bs := by
  induction as generalizing bs with
  | nil => cases bs <;> simp [componentsBefore]
  | cons a as ih =>
    cases bs with
    | nil => simp [componentsBefore]
    | cons b bs => simp [componentsBefore, ih, List.cons_lex_cons_iff]

theorem componentsBefore_irrefl (as : List Component) : ¬componentsBefore as as = true := by
  rw [componentsBefore_iff]
  exact List.lex_irrefl Component.before_irrefl as

theorem componentsBefore_trans {as bs cs : List Component} (hab : componentsBefore as bs = true)
    (hbc : componentsBefore bs cs = true) : componentsBefore as cs = true := by
  rw [componentsBefore_iff] at *
  exact List.lex_trans Component.before_trans hab hbc

theorem componentsBefore_total {as bs : List Component} (hab : ¬componentsBefore as bs = true)
    (hba : ¬componentsBefore bs as = true) : as = bs := by
  rw [componentsBefore_iff] at *
  have htotal : Std.Trichotomous fun a b : Component => a.before b = true :=
    ⟨fun _ _ => Component.before_total⟩
  exact (List.Lex.trichotomous _).trichotomous as bs hab hba

/-- What lies at or below a place does not come before it. -/
theorem not_before_of_prefix {as bs : List Component} (h : as <+: bs) :
    ¬componentsBefore bs as = true := by
  induction as generalizing bs with
  | nil => simp [componentsBefore]
  | cons a as ih =>
    obtain ⟨rest, rfl⟩ := h
    simpa [componentsBefore, a.before_irrefl] using ih (List.prefix_append as rest)

/-- What comes behind a place and does not lie below it comes behind all that does. -/
theorem append_before {as bs : List Component} (h : componentsBefore as bs = true)
    (hnot : ¬as <+: bs) (rest : List Component) : componentsBefore (as ++ rest) bs = true := by
  induction as generalizing bs with
  | nil => exact absurd List.nil_prefix hnot
  | cons a as ih =>
    cases bs with
    | nil => cases h
    | cons b bs =>
      simp only [List.cons_append, componentsBefore, Bool.or_eq_true, Bool.and_eq_true,
        beq_iff_eq] at h ⊢
      -- the first difference decides, and it is not behind the place
      refine h.imp_right fun ⟨hab, hbefore⟩ => ⟨hab, ih hbefore fun hbelow => hnot ?_⟩
      rw [hab, List.cons_prefix_cons]
      exact ⟨rfl, hbelow⟩

end ContainerBuild.Path
