import Mathlib.Data.List.Chain
import Pruner.Proofs.Scan.Traversal

/-!
# Splitting a stretch of text

The segments of a stretch tile it: they follow each other with one comma between two of them, and with
these commas put back they are the stretch again. A comma separates two segments exactly when the walk
over the stretch comes to it outside literals, after as many opening as closing brackets. All this holds
whatever the kinds of the brackets, after closers without openers, and also when a literal runs past the
end of the stretch.
-/

namespace Pruner.Scan

/-! ### Segments between separators -/

namespace Segment

theorem between_ne_nil (start stop : Nat) (separators : List Nat) :
    between start separators stop ≠ [] := by
  cases separators <;> simp

theorem head?_between (start stop : Nat) (separators : List Nat) :
    (between start separators stop).head?.map Segment.start = some start := by
  cases separators <;> rfl

theorem getLast?_between (start stop : Nat) (separators : List Nat) :
    (between start separators stop).getLast?.map Segment.stop = some stop := by
  induction separators generalizing start with
  | nil => rfl
  | cons p ps ih =>
      have hlast : (between start (p :: ps) stop).getLast? = (between (p + 1) ps stop).getLast? :=
        List.getLast?_cons_of_ne_nil (between_ne_nil (p + 1) stop ps)
      exact (congrArg (Option.map Segment.stop) hlast).trans (ih (p + 1))

/-- Each segment begins one past the end of the one in front of it. -/
theorem isChain_between (start stop : Nat) (separators : List Nat) :
    (between start separators stop).IsChain fun a b => b.start = a.stop + 1 := by
  induction separators generalizing start with
  | nil => exact .singleton _
  | cons p ps ih =>
      have hrest := ih (p + 1)
      cases ps with
      | nil => exact .cons_cons rfl hrest
      | cons q qs => exact .cons_cons rfl hrest

theorem slice_split {text : List Char} {start p stop : Nat} {c : Char} (hstart : start ≤ p)
    (hstop : p < stop) (hc : text[p]? = some c) :
    slice text ⟨start, stop⟩ = slice text ⟨start, p⟩ ++ c :: slice text ⟨p + 1, stop⟩ := by
  obtain ⟨hp, rfl⟩ := List.getElem?_eq_some_iff.mp hc
  have hlength : stop - start = (p - start) + (stop - (p + 1) + 1) := by omega
  have hdrop : (text.drop start).drop (p - start) = text[p] :: text.drop (p + 1) := by
    rw [List.drop_drop, Nat.add_sub_cancel' hstart, List.drop_eq_getElem_cons hp]
  calc
    slice text ⟨start, stop⟩ = (text.drop start).take ((p - start) + (stop - (p + 1) + 1)) :=
      congrArg (fun n => (text.drop start).take n) hlength
    _ = (text.drop start).take (p - start) ++
        ((text.drop start).drop (p - start)).take (stop - (p + 1) + 1) := List.take_add
    _ = slice text ⟨start, p⟩ ++ text[p] :: slice text ⟨p + 1, stop⟩ := by
      rw [hdrop]
      rfl

/-- Separators put back between the segments that they leave make up the stretch again. -/
theorem intercalate_between {text : List Char} {c : Char} {start stop : Nat} {separators : List Nat}
    (hsorted : separators.Pairwise (· < ·))
    (hinside : ∀ p ∈ separators, start ≤ p ∧ p < stop ∧ text[p]? = some c) :
    [c].intercalate ((between start separators stop).map (slice text)) = slice text ⟨start, stop⟩ := by
  induction separators generalizing start with
  | nil => exact List.intercalate_singleton
  | cons p ps ih =>
      obtain ⟨hfirst, hsorted⟩ := List.pairwise_cons.mp hsorted
      obtain ⟨⟨hstart, hstop, hc⟩, hlater⟩ := List.forall_mem_cons.mp hinside
      have hrest : [c].intercalate ((between (p + 1) ps stop).map (slice text)) =
          slice text ⟨p + 1, stop⟩ := by
        apply ih hsorted
        intro q hq
        exact ⟨hfirst q hq, (hlater q hq).2⟩
      obtain ⟨part, parts, hparts⟩ :=
        List.exists_cons_of_ne_nil (between_ne_nil (p + 1) stop ps)
      calc
        [c].intercalate ((between start (p :: ps) stop).map (slice text)) =
            slice text ⟨start, p⟩ ++ [c] ++
              [c].intercalate ((between (p + 1) ps stop).map (slice text)) := by
          rw [between_cons, hparts]
          exact List.intercalate_cons_cons
        _ = slice text ⟨start, p⟩ ++ c :: slice text ⟨p + 1, stop⟩ := by
          rw [hrest, List.append_assoc, List.singleton_append]
        _ = slice text ⟨start, stop⟩ := (slice_split hstart hstop hc).symm

end Segment

/-! ### The walk with what it has seen -/

/-- The walk over the text from `start` up to `stop` has come to this index and has seen these characters
outside literals. -/
inductive Walked (text : List Char) (start stop : Nat) : List Visit → Nat → Prop where
  | start : Walked text start stop [] start
  | literal {seen : List Visit} {i j : Nat} : Walked text start stop seen i → i < stop →
      literalEnd text i = .ok j → j ≠ i → Walked text start stop seen j
  | char {seen : List Visit} {i : Nat} {c : Char} : Walked text start stop seen i → i < stop →
      literalEnd text i = .ok i → text[i]? = some c → Walked text start stop (seen ++ [⟨i, c⟩]) (i + 1)

/-- As many opening as closing brackets have been seen. -/
def AtTop (seen : List Visit) : Prop :=
  seen.countP (fun v => (Bracket.opened? v.char).isSome) =
    seen.countP fun v => (Bracket.closed? v.char).isSome

section Walk

variable {text rest : List Char} {start stop index : Nat} {prior : Option Char}
variable {seen vs : List Visit}

theorem walk_literal {next : Nat} (h : index < stop) (hend : literalEnd text index = .ok next)
    (hne : next ≠ index) : walk text index stop = walk text next stop := by
  obtain ⟨s, t, hcur, hs, hlen, rfl⟩ := exists_literal_of_literalEnd hend hne
  calc
    walk text index stop = visits _ index stop (s ++ t) := hcur.walk_eq stop
    _ = visits _ (index + s.length) stop t := visits_literal hs hlen h
    _ = walk text (index + s.length) stop := (hcur.advance.walk_eq stop).symm

theorem walk_char {c : Char} (h : index < stop) (hend : literalEnd text index = .ok index)
    (hc : text[index]? = some c) :
    walk text index stop = (walk text (index + 1) stop).map (⟨index, c⟩ :: ·) := by
  have hcur := Cursor.of_getElem? hc
  calc
    walk text index stop = visits _ index stop (c :: text.drop (index + 1)) := hcur.walk_eq stop
    _ = (visits _ (index + 1) stop (text.drop (index + 1))).map (⟨index, c⟩ :: ·) :=
      visits_char (hcur.literalLength_eq_zero hend) h
    _ = (walk text (index + 1) stop).map (⟨index, c⟩ :: ·) := by
      rw [hcur.advance_char.walk_eq stop]

namespace Walked

/-- The whole walk shows what has been seen on the way to an index and then what the walk from there on
shows. -/
theorem walk_eq (h : Walked text start stop seen index) :
    walk text start stop = (walk text index stop).map (seen ++ ·) := by
  induction h with
  | start => cases walk text start stop <;> rfl
  | literal _ hlt hend hne ih => rw [ih, walk_literal hlt hend hne]
  | @char seen i c _ hlt hend hc ih =>
      rw [ih, walk_char hlt hend hc]
      exact map_map_append _ seen [⟨i, c⟩]

/-- A walk that has come to an index goes on as far as the reader from there does. -/
theorem of_visits (h : Walked text start stop seen index) (hcur : Cursor text index prior rest)
    (hvisits : visits prior index stop rest = .ok vs) :
    ∃ last, Walked text start stop (seen ++ vs) last := by
  fun_induction visits prior index stop rest generalizing seen vs with
  | case1 prior index rest hstop =>
      obtain rfl := Except.ok.inj hvisits
      exact ⟨index, by rwa [List.append_nil]⟩
  | case2 | case3 => cases hvisits
  | case4 prior index hlt c cs n hn ih =>
      obtain ⟨hnext, -⟩ := hcur.pass_literal hn
      exact ih (h.literal (by omega) (hcur.literalEnd_eq hn) (by omega)) hnext hvisits
  | case5 prior index hlt c cs hn ih =>
      cases hrest : visits (lastSignificant prior [c]) (index + 1) stop cs with
      | error fault => rw [hrest] at hvisits; cases hvisits
      | ok us =>
          rw [hrest] at hvisits
          obtain rfl := Except.ok.inj hvisits
          have hchar := h.char (by omega) (hcur.literalEnd_eq hn) hcur.getElem?_eq
          obtain ⟨last, hlast⟩ := ih hchar hcur.advance_char hrest
          exact ⟨last, by rwa [List.append_assoc] at hlast⟩

theorem exists_of_walk (h : walk text start stop = .ok vs) : ∃ last, Walked text start stop vs last :=
  of_visits .start (.ofIndex text start) h

theorem bounds (h : Walked text start stop seen index) :
    start ≤ index ∧ ∀ v ∈ seen, start ≤ v.index ∧ v.index < index ∧ v.index < stop := by
  induction h with
  | start => exact ⟨Nat.le_refl _, by simp⟩
  | literal _ hlt hend hne ih =>
      have hle := (literalLength_of_literalEnd hend).2.1
      refine ⟨by omega, fun v hv => ?_⟩
      have hbounds := ih.2 v hv
      omega
  | char _ hlt _ _ ih =>
      refine ⟨by omega, fun v hv => ?_⟩
      rcases List.mem_append.mp hv with hv | hv
      · have hbounds := ih.2 v hv
        omega
      · obtain rfl := List.mem_singleton.mp hv
        exact ⟨ih.1, Nat.lt_succ_self _, hlt⟩

theorem pairwise (h : Walked text start stop seen index) :
    seen.Pairwise fun u v => u.index < v.index := by
  induction h with
  | start => exact .nil
  | literal _ _ _ _ ih => exact ih
  | char hahead _ _ _ ih =>
      apply List.pairwise_append.mpr
      refine ⟨ih, List.pairwise_singleton _ _, fun u hu v hv => ?_⟩
      obtain rfl := List.mem_singleton.mp hv
      exact (hahead.bounds.2 u hu).2.1

/-- The walk comes to every character that it shows, after those shown in front of it. -/
theorem of_append {before after : List Visit} {v : Visit}
    (h : Walked text start stop (before ++ v :: after) index) :
    Walked text start stop before v.index ∧ v.index < stop ∧
      literalEnd text v.index = .ok v.index ∧ text[v.index]? = some v.char := by
  generalize hseen : before ++ v :: after = seen at h
  induction h generalizing after with
  | start => simp at hseen
  | literal _ _ _ _ ih => exact ih hseen
  | @char seen i c hahead hlt hend hc ih =>
      -- a walk grows at its end, so `after` is split there: without a last character, `v` is the newest one
      rcases List.eq_nil_or_concat after with rfl | ⟨others, w, rfl⟩
      · obtain ⟨rfl, hlast⟩ := List.append_inj' hseen rfl
        obtain rfl := List.singleton_inj.mp hlast
        exact ⟨hahead, hlt, hend, hc⟩
      · rw [List.concat_eq_append, ← List.cons_append, ← List.append_assoc] at hseen
        exact ih (List.append_inj' hseen rfl).1

end Walked

end Walk

/-! ### Top-level commas -/

theorem Bracket.closed?_eq_none {c : Char} {b : Bracket} (h : opened? c = some b) :
    closed? c = none := by
  obtain rfl := eq_opener_of_opened? h
  cases b <;> rfl

theorem depthChange_eq (c : Char) :
    depthChange c = (if (Bracket.opened? c).isSome then 1 else 0) -
      if (Bracket.closed? c).isSome then 1 else 0 := by
  rw [depthChange]
  cases hopen : Bracket.opened? c with
  | some b => simp [Bracket.closed?_eq_none hopen]
  | none => cases Bracket.closed? c <;> rfl

/-- The depth behind some characters when it is `depth` in front of them. -/
def depthAfter (depth : Int) (seen : List Visit) : Int :=
  seen.foldl (fun depth v => depth + depthChange v.char) depth

@[simp] theorem depthAfter_nil (depth : Int) : depthAfter depth [] = depth := rfl

@[simp] theorem depthAfter_cons (depth : Int) (v : Visit) (seen : List Visit) :
    depthAfter depth (v :: seen) = depthAfter (depth + depthChange v.char) seen := rfl

/-- The depth counts opening brackets up and closing brackets down. -/
theorem depthAfter_eq (depth : Int) (seen : List Visit) :
    depthAfter depth seen = depth + seen.countP (fun v => (Bracket.opened? v.char).isSome) -
      seen.countP fun v => (Bracket.closed? v.char).isSome := by
  induction seen generalizing depth with
  | nil => simp
  | cons v seen ih =>
      rw [depthAfter_cons, ih, depthChange_eq, List.countP_cons, List.countP_cons]
      split_ifs <;> omega

theorem atTop_iff (seen : List Visit) : AtTop seen ↔ depthAfter 0 seen = 0 := by
  rw [AtTop, depthAfter_eq]
  omega

theorem topCommas_sublist (depth : Int) (vs : List Visit) :
    (topCommas depth vs).Sublist (vs.map Visit.index) := by
  induction vs generalizing depth with
  | nil => exact .slnil
  | cons v vs ih =>
      rw [topCommas, List.map_cons]
      split_ifs
      · exact (ih _).cons_cons _
      · exact (ih _).cons _

theorem mem_topCommas_cons {v : Visit} {vs : List Visit} {depth : Int} {p : Nat} :
    p ∈ topCommas depth (v :: vs) ↔
      v = ⟨p, ','⟩ ∧ depth = 0 ∨ p ∈ topCommas (depth + depthChange v.char) vs := by
  obtain ⟨index, c⟩ := v
  rw [topCommas]
  by_cases hc : c = ','
  · subst hc
    have hchange : depthChange ',' = 0 := by decide
    by_cases hdepth : depth = 0 <;> simp [hchange, hdepth, eq_comm]
  · simp [hc]

/-- A comma is at the top where the depth has come back to zero. -/
theorem mem_topCommas_iff {vs : List Visit} {depth : Int} {p : Nat} :
    p ∈ topCommas depth vs ↔
      ∃ before after, vs = before ++ ⟨p, ','⟩ :: after ∧ depthAfter depth before = 0 := by
  induction vs generalizing depth with
  | nil => simp
  | cons v vs ih =>
      rw [mem_topCommas_cons, ih]
      constructor
      · rintro (⟨rfl, hdepth⟩ | ⟨before, after, rfl, hdepth⟩)
        · exact ⟨[], vs, rfl, hdepth⟩
        · exact ⟨v :: before, after, rfl, hdepth⟩
      · rintro ⟨before, after, heq, hdepth⟩
        cases before with
        | nil =>
            obtain ⟨rfl, rfl⟩ := List.cons.inj heq
            exact .inl ⟨rfl, hdepth⟩
        | cons u us =>
            obtain ⟨rfl, rfl⟩ := List.cons.inj heq
            exact .inr ⟨us, after, rfl, hdepth⟩

/-! ### The split -/

section Split

variable {text : List Char} {start stop : Nat}

/-- The commas at which a stretch is split are the commas that the walk comes to at the top. -/
theorem mem_topCommas_walk_iff {vs : List Visit} (hwalk : walk text start stop = .ok vs) {p : Nat} :
    p ∈ topCommas 0 vs ↔
      ∃ seen, Walked text start stop seen p ∧ p < stop ∧ literalEnd text p = .ok p ∧
        text[p]? = some ',' ∧ AtTop seen := by
  rw [mem_topCommas_iff]
  constructor
  · rintro ⟨seen, after, rfl, hdepth⟩
    obtain ⟨last, hlast⟩ := Walked.exists_of_walk hwalk
    obtain ⟨hseen, hlt, hend, hc⟩ := hlast.of_append
    exact ⟨seen, hseen, hlt, hend, hc, (atTop_iff seen).mpr hdepth⟩
  · rintro ⟨seen, hseen, hlt, hend, hc, htop⟩
    have hshown := hseen.walk_eq
    rw [walk_char hlt hend hc, hwalk] at hshown
    cases hrest : walk text (p + 1) stop with
    | error fault => rw [hrest] at hshown; cases hshown
    | ok after =>
        rw [hrest] at hshown
        exact ⟨seen, after, Except.ok.inj hshown, (atTop_iff seen).mp htop⟩

/-- The segments of a stretch that can be split at all tile it: the first begins with it, the last ends
with it, and each of the others begins one past the end of the one in front. With a comma between each
two of them they are the stretch again. The separators are the commas that the walk over the stretch
comes to outside literals when as many brackets have been closed as opened. -/
theorem segments_tile {parts : List Segment} (h : segments text start stop = .ok parts) :
    parts.head?.map Segment.start = some start ∧
    parts.getLast?.map Segment.stop = some stop ∧
    parts.IsChain (fun a b => b.start = a.stop + 1) ∧
    [','].intercalate (parts.map (Segment.slice text)) = Segment.slice text ⟨start, stop⟩ ∧
    ∀ p, p ∈ parts.dropLast.map Segment.stop ↔
      ∃ seen, Walked text start stop seen p ∧ p < stop ∧ literalEnd text p = .ok p ∧
        text[p]? = some ',' ∧ AtTop seen := by
  obtain ⟨vs, hwalk, rfl⟩ : ∃ vs, walk text start stop = .ok vs ∧
      Segment.between start (topCommas 0 vs) stop = parts := by
    rw [segments] at h
    change (walk text start stop).map _ = _ at h
    cases hwalk : walk text start stop with
    | error fault => rw [hwalk] at h; cases h
    | ok vs =>
        rw [hwalk] at h
        exact ⟨vs, rfl, Except.ok.inj h⟩
  obtain ⟨last, hlast⟩ := Walked.exists_of_walk hwalk
  refine ⟨Segment.head?_between _ _ _, Segment.getLast?_between _ _ _,
    Segment.isChain_between _ _ _, ?_, fun p => ?_⟩
  · apply Segment.intercalate_between
    · apply List.Pairwise.sublist (topCommas_sublist 0 vs)
      exact List.pairwise_map.mpr hlast.pairwise
    · intro p hp
      obtain ⟨seen, hseen, hlt, -, hc, -⟩ := (mem_topCommas_walk_iff hwalk).mp hp
      exact ⟨hseen.bounds.1, hlt, hc⟩
  · rw [Segment.dropLast_between]
    exact mem_topCommas_walk_iff hwalk

end Split

-- a closer without opener, brackets that differ in kind, and a string that ends behind the stretch
theorem segments_tile_overrun :
    segments "a], [b, c), 'd, e'".toList 0 16 = .ok [⟨0, 6⟩, ⟨7, 16⟩] ∧
      [','].intercalate ["a], [b".toList, " c), 'd, ".toList] = "a], [b, c), 'd, ".toList ∧
      ∀ p, p ∈ [6] ↔ ∃ seen, Walked "a], [b, c), 'd, e'".toList 0 16 seen p ∧ p < 16 ∧
        literalEnd "a], [b, c), 'd, e'".toList p = .ok p ∧
        "a], [b, c), 'd, e'".toList[p]? = some ',' ∧ AtTop seen := by
  have hparts : segments "a], [b, c), 'd, e'".toList 0 16 = .ok [⟨0, 6⟩, ⟨7, 16⟩] := by
    cbv
  obtain ⟨-, -, -, hjoin, hseparators⟩ := segments_tile hparts
  exact ⟨hparts, hjoin, hseparators⟩

end Pruner.Scan
