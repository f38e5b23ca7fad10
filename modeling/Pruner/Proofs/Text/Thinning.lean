import Mathlib.Tactic.SplitIfs

/-!
# Thinning a text

A text is thinned by deleting some of its characters. What stays whole in one deletion after another
has been whole in each of them, so a property of all stretches that one deletion leaves whole carries
over to every deletion that follows.
-/

namespace Pruner.Text

/-- The characters of the text from `p` on at kept indices. -/
def retain (kept : Nat → Bool) : Nat → List Char → List Char
  | _, [] => []
  | p, c :: cs => if kept p then c :: retain kept (p + 1) cs else retain kept (p + 1) cs

/-- Indices of a text with one more character in front, which is kept or not. -/
def extend (head : Bool) (kept : Nat → Bool) : Nat → Bool
  | 0 => head
  | q + 1 => kept q

/-- How many indices below `p` are kept. -/
def rank (kept : Nat → Bool) : Nat → Nat
  | 0 => 0
  | p + 1 => rank kept p + if kept p then 1 else 0

section Retain

variable {kept : Nat → Bool} {p : Nat}

theorem retain_append (s t : List Char) :
    retain kept p (s ++ t) = retain kept p s ++ retain kept (p + s.length) t := by
  induction s generalizing p with
  | nil => rfl
  | cons c cs ih =>
      have hindex : p + (cs.length + 1) = p + 1 + cs.length := by omega
      rw [List.cons_append, retain, retain, ih, List.length_cons, hindex]
      split_ifs <;> rfl

theorem retain_shift (n : Nat) (s : List Char) :
    retain kept (p + n) s = retain (fun q => kept (q + n)) p s := by
  induction s generalizing p with
  | nil => rfl
  | cons c cs ih =>
      have hnext := ih (p := p + 1)
      rw [Nat.add_right_comm] at hnext
      rw [retain, retain, hnext]

theorem retain_extend (head : Bool) (kept : Nat → Bool) (c : Char) (cs : List Char) :
    retain (extend head kept) 0 (c :: cs) =
      if head then c :: retain kept 0 cs else retain kept 0 cs := by
  have hshift : retain (extend head kept) (0 + 1) cs = retain kept 0 cs := retain_shift 1 cs
  rw [retain, hshift]
  rfl

theorem retain_whole {s : List Char}
    (h : ∀ q, p ≤ q → q < p + s.length → kept q = true) : retain kept p s = s := by
  induction s generalizing p with
  | nil => rfl
  | cons c cs ih =>
      rw [List.length_cons] at h
      rw [retain, if_pos (h p (Nat.le_refl _) (by omega)),
        ih fun q hq hq' => h q (by omega) (by omega)]

theorem retain_none {s : List Char}
    (h : ∀ q, p ≤ q → q < p + s.length → kept q = false) : retain kept p s = [] := by
  induction s generalizing p with
  | nil => rfl
  | cons c cs ih =>
      rw [List.length_cons] at h
      rw [retain, h p (Nat.le_refl _) (by omega), ih fun q hq hq' => h q (by omega) (by omega)]
      rfl

theorem retain_congr {kept' : Nat → Bool} {s : List Char}
    (h : ∀ q, p ≤ q → q < p + s.length → kept q = kept' q) :
    retain kept p s = retain kept' p s := by
  induction s generalizing p with
  | nil => rfl
  | cons c cs ih =>
      rw [List.length_cons] at h
      rw [retain, retain, h p (Nat.le_refl _) (by omega),
        ih fun q hq hq' => h q (by omega) (by omega)]

theorem retain_sublist (kept : Nat → Bool) (p : Nat) (s : List Char) :
    (retain kept p s).Sublist s := by
  induction s generalizing p with
  | nil => exact .slnil
  | cons c cs ih =>
      rw [retain]
      split_ifs
      · exact (ih _).cons_cons c
      · exact (ih _).cons c

theorem retain_eq_filter (kept : Nat → Bool) (p : Nat) (text : List Char) :
    retain kept p text = ((text.zipIdx p).filter fun x => kept x.2).map Prod.fst := by
  induction text generalizing p with
  | nil => rfl
  | cons c cs ih =>
      rw [retain, List.zipIdx_cons, List.filter_cons, ih]
      split_ifs <;> rfl

/-- A character that is not kept makes the text shorter. -/
theorem length_retain_lt {s : List Char} {q : Nat} (hq : p ≤ q) (hs : q < p + s.length)
    (hgone : kept q = false) : (retain kept p s).length < s.length := by
  induction s generalizing p with
  | nil =>
      rw [List.length_nil] at hs
      omega
  | cons c cs ih =>
      rw [List.length_cons] at hs
      rw [List.length_cons]
      have hle := (retain_sublist kept (p + 1) cs).length_le
      by_cases hp : p = q
      · subst hp
        rw [retain, hgone, if_neg (by simp)]
        omega
      · have hlt : (retain kept (p + 1) cs).length < cs.length := ih (by omega) (by omega)
        rw [retain]
        split_ifs
        · rw [List.length_cons]
          omega
        · omega

theorem rank_add_length (s : List Char) :
    rank kept p + (retain kept p s).length = rank kept (p + s.length) := by
  induction s generalizing p with
  | nil => rfl
  | cons c cs ih =>
      have hnext := ih (p := p + 1)
      have hindex : p + (cs.length + 1) = p + 1 + cs.length := by omega
      rw [rank] at hnext
      rw [List.length_cons, hindex, ← hnext, retain]
      split_ifs
      · rw [List.length_cons]
        omega
      · omega

theorem rank_whole {n : Nat} (h : ∀ q, p ≤ q → q < p + n → kept q = true) :
    rank kept (p + n) = rank kept p + n := by
  induction n with
  | zero => rfl
  | succ n ih =>
      rw [← Nat.add_assoc, rank, ih fun q hq hq' => h q hq (by omega),
        if_pos (h (p + n) (by omega) (by omega)), Nat.add_assoc]

theorem retain_retain (kept' : Nat → Bool) (s : List Char) :
    retain kept' (rank kept p) (retain kept p s) =
      retain (fun q => kept q && kept' (rank kept q)) p s := by
  induction s generalizing p with
  | nil => rfl
  | cons c cs ih =>
      have hnext := ih (p := p + 1)
      rw [rank] at hnext
      cases hp : kept p with
      | true =>
          rw [hp, if_pos rfl] at hnext
          simp only [retain, hp, if_true, Bool.true_and, hnext]
      | false =>
          simp only [hp, Bool.false_eq_true, if_false, Nat.add_zero] at hnext
          simp only [retain, hp, Bool.false_and, Bool.false_eq_true, if_false, hnext]

end Retain

/-- The text without some of its characters, where every stretch that stays whole is as stated. -/
def Thins (text left : List Char) (Q : List Char → Prop) : Prop :=
  ∃ kept : Nat → Bool, left = retain kept 0 text ∧ ∀ u w v, text = u ++ (w ++ v) →
    (∀ p, u.length ≤ p → p < u.length + w.length → kept p = true) → Q w

namespace Thins

variable {a b c : List Char} {P Q : List Char → Prop}

theorem mono (h : Thins a b P) (hPQ : ∀ w, P w → Q w) : Thins a b Q := by
  obtain ⟨kept, rfl, hwhole⟩ := h
  exact ⟨kept, rfl, fun u w v ha hkept => hPQ w (hwhole u w v ha hkept)⟩

theorem trans (hab : Thins a b P) (hbc : Thins b c Q) : Thins a c fun w => P w ∧ Q w := by
  obtain ⟨kept, rfl, hP⟩ := hab
  obtain ⟨kept', rfl, hQ⟩ := hbc
  refine ⟨fun q => kept q && kept' (rank kept q), retain_retain (p := 0) kept' a, ?_⟩
  intro u w v ha hkept
  have hfirst : ∀ p, u.length ≤ p → p < u.length + w.length → kept p = true :=
    fun p hp hp' => (Bool.and_eq_true_iff.mp (hkept p hp hp')).1
  refine ⟨hP u w v ha hfirst, ?_⟩
  -- the stretch stands whole behind what the first deletion leaves of `u`
  have hrank : rank kept 0 + (retain kept 0 u).length = rank kept (0 + u.length) :=
    rank_add_length u
  rw [rank, Nat.zero_add, Nat.zero_add] at hrank
  refine hQ (retain kept 0 u) w (retain kept (u.length + w.length) v) ?_ fun p hp hp' => ?_
  · rw [ha, retain_append, retain_append, Nat.zero_add, retain_whole hfirst]
  · rw [hrank] at hp hp'
    obtain ⟨n, rfl⟩ := Nat.exists_eq_add_of_le hp
    have hsecond := (Bool.and_eq_true_iff.mp (hkept (u.length + n) (by omega) (by omega))).2
    rwa [rank_whole fun q hq hq' => hfirst q hq (by omega)] at hsecond

theorem of_sublist (h : b.Sublist a) : Thins a b fun _ => True := by
  have hmask : ∃ kept : Nat → Bool, b = retain kept 0 a := by
    induction h with
    | slnil => exact ⟨fun _ => true, rfl⟩
    | @cons s t c _ ih =>
        obtain ⟨kept, rfl⟩ := ih
        exact ⟨extend false kept, (retain_extend false kept c t).symm⟩
    | @cons_cons s t c _ ih =>
        obtain ⟨kept, rfl⟩ := ih
        exact ⟨extend true kept, (retain_extend true kept c t).symm⟩
  obtain ⟨kept, rfl⟩ := hmask
  exact ⟨kept, rfl, fun _ _ _ _ _ => trivial⟩

/-- A character that stays in front. -/
theorem cons {d : Char} (hnil : Q []) (hstep : ∀ w v, a = w ++ v → Q w → Q (d :: w))
    (h : Thins a b Q) : Thins (d :: a) (d :: b) Q := by
  obtain ⟨kept, rfl, hwhole⟩ := h
  refine ⟨extend true kept, (retain_extend true kept d a).symm, fun u w v ha hkept => ?_⟩
  cases u with
  | cons e u =>
      obtain ⟨-, htail⟩ := List.cons.inj ha
      rw [List.length_cons] at hkept
      exact hwhole u w v htail fun p hp hp' => hkept (p + 1) (by omega) (by omega)
  | nil =>
      cases w with
      | nil => exact hnil
      | cons e w =>
          obtain ⟨rfl, htail⟩ := List.cons.inj ha
          rw [List.length_nil, List.length_cons] at hkept
          refine hstep w v htail (hwhole [] w v htail fun p hp hp' => hkept (p + 1) (by omega) ?_)
          rw [List.length_nil] at hp'
          omega

/-- A first part that stays whole, and a second one that goes. -/
theorem splice {s d : List Char} (hs : ∀ u w v, s = u ++ (w ++ v) → Q w) (hd : d ≠ [])
    (h : Thins a b Q) : Thins (s ++ (d ++ a)) (s ++ b) Q := by
  obtain ⟨kept, rfl, hwhole⟩ := h
  have hpos := List.length_pos_iff.mpr hd
  let mask : Nat → Bool := fun p =>
    p < s.length || (s.length + d.length ≤ p && kept (p - (s.length + d.length)))
  have hmask : ∀ p, mask p = true ↔
      p < s.length ∨ s.length + d.length ≤ p ∧ kept (p - (s.length + d.length)) = true := by
    intro p
    simp [mask]
  have hfirst : retain mask 0 s = s :=
    retain_whole fun q _ hq => (hmask q).mpr (.inl (by omega))
  have hsecond : retain mask s.length d = [] := by
    apply retain_none
    intro q hq hq'
    rw [Bool.eq_false_iff]
    intro htrue
    have hcases := (hmask q).mp htrue
    omega
  have hthird : retain mask (s.length + d.length) a = retain kept 0 a := by
    have hshift : retain mask (0 + (s.length + d.length)) a = _ := retain_shift _ a
    have hfun : (fun q => mask (q + (s.length + d.length))) = kept := by
      funext q
      have hnot : ¬ q + (s.length + d.length) < s.length := by omega
      simp [mask, hnot]
    rwa [hfun, Nat.zero_add] at hshift
  refine ⟨mask, ?_, fun u w v ha hkept => ?_⟩
  · rw [retain_append, retain_append, Nat.zero_add, hfirst, hsecond, hthird, List.nil_append]
  · cases w with
    | nil => exact hs [] [] s rfl
    | cons e w =>
        have hhere := (hmask u.length).mp (hkept _ (Nat.le_refl _) (by simp))
        by_cases hu : u.length < s.length
        · -- the stretch begins in the first part and cannot leave it
          have hle : u.length + (e :: w).length ≤ s.length := by
            apply Nat.le_of_not_lt
            intro hlt
            have hgone := (hmask s.length).mp (hkept _ (by omega) hlt)
            omega
          have htake := congrArg (List.take s.length) ha
          rw [List.take_left, List.take_append, List.take_of_length_le (by omega), List.take_append,
            List.take_of_length_le (by omega)] at htake
          exact hs u (e :: w) _ htake
        · have hbehind : s.length + d.length ≤ u.length := by omega
          have hdrop := congrArg (List.drop (s.length + d.length)) ha
          rw [← List.append_assoc, List.drop_left' List.length_append,
            List.drop_append_of_le_length hbehind] at hdrop
          apply hwhole _ (e :: w) v hdrop
          intro p hp hp'
          rw [List.length_drop] at hp hp'
          rcases (hmask (p + (s.length + d.length))).mp (hkept _ (by omega) (by omega)) with
            hlt | ⟨-, hkeep⟩
          · omega
          · rwa [Nat.add_sub_cancel] at hkeep

end Thins

end Pruner.Text
