import Pruner.Proofs.Object.Cutting
import Pruner.Proofs.Object.Steady

/-!
# Removal from one span

Removing the selected properties of one span filters its list of properties and changes nothing else:
read again, the span has the other properties in their old order, and an empty one at the end when
the last property went.
-/

namespace Pruner.Scan

open Text

section Pieces

variable {text tail : List Char} {index : Nat}

theorem slice_between {s : Fragment} {ss : List Fragment}
    (hdrop : text.drop index = (Fragment.join s ss).text ++ tail) (hs : s.others = [])
    (hss : ∀ t ∈ ss, Fragment.others t = []) :
    (Segment.between index ((Fragment.join s ss).commas index)
        (index + (Fragment.join s ss).text.length)).map (Segment.slice text) =
      (s :: ss).map Fragment.text := by
  induction ss generalizing index s with
  | nil =>
      rw [Fragment.join] at hdrop ⊢
      rw [Fragment.commas_of_others_nil hs]
      simp [Segment.slice, hdrop]
  | cons t ts ih =>
      have hcommas := Fragment.commas_join hs t ts index
      rw [Fragment.join, Fragment.text_append, Fragment.text_plain] at hdrop
      have hnext : text.drop (index + s.text.length + 1) = (Fragment.join t ts).text ++ tail := by
        rw [Nat.add_assoc, ← List.drop_drop, hdrop, List.append_assoc, List.drop_length_add_append]
        rfl
      have hslice : Segment.slice text ⟨index, index + s.text.length⟩ = s.text := by
        simp [Segment.slice, hdrop]
      have hstop : index + (Fragment.join s (t :: ts)).text.length =
          index + s.text.length + 1 + (Fragment.join t ts).text.length := by
        rw [Fragment.join, Fragment.text_append, Fragment.text_plain, List.length_append,
          List.length_cons]
        omega
      rw [hcommas, hstop, Segment.between_cons, List.map_cons, hslice,
        ih hnext (hss t (by simp)) fun u hu => hss u (by simp [hu])]
      rfl

theorem slice_pieces {F : Fragment} (hdrop : text.drop index = F.text ++ tail) :
    (Segment.between index (F.commas index) (index + F.text.length)).map (Segment.slice text) =
      F.pieces.map Fragment.text := by
  have hjoin := Fragment.join_first_others F
  have hslice := slice_between (s := F.first) (by rw [hjoin, hdrop]) F.others_first
    fun _ => Fragment.others_of_mem_others
  rw [hjoin] at hslice
  exact hslice

end Pieces

/-- What stands between the commas of the span from `start` to `close`. -/
def properties (text : List Char) (start close : Nat) : Except Fault (List (List Char)) :=
  (segments text (start + 1) close).map (List.map (Segment.slice text))

theorem properties_eq {text tail : List Char} {start : Nat} {F : Fragment}
    (hdrop : text.drop start = '{' :: (F.text ++ '}' :: tail))
    (hF : F.Reads (some '{') ('}' :: tail)) :
    properties text start (start + 1 + F.text.length) = .ok (F.pieces.map Fragment.text) := by
  have hcur : Cursor text start _ ('{' :: (F.text ++ '}' :: tail)) := ⟨rfl, hdrop⟩
  have hnext := hcur.advance_opener (b := .brace)
  rw [properties, segments_fragment hnext hF, ← slice_pieces hnext.rest_eq]
  rfl

theorem Fragment.dropWhile_text {F : Fragment} (hF : F.Fits soundShape) :
    F.text.dropWhile isBlank = F.body.text := by
  have hblanks := F.blanks_text_self hF
  rw [← Object.drop_blanks, hblanks, F.text_eq_lead_append, List.drop_left]

theorem Fragment.map_dropWhile_text {ps : List Fragment} (hps : ∀ p ∈ ps, p.Fits soundShape) :
    (ps.map text).map (List.dropWhile isBlank) = (ps.map body).map text := by
  rw [List.map_map, List.map_map]
  exact List.map_congr_left fun p hp => dropWhile_text (hps p hp)

end Pruner.Scan

namespace Pruner.Object.Selection

open Scan Text Cut

variable (sel : Selection)

theorem length_cutsFrom (close index : Nat) (s : Fragment) (ss : List Fragment) :
    (sel.cutsFrom close index s ss).length = ((s :: ss).map Fragment.text).countP sel.selects := by
  induction ss generalizing index s with
  | nil =>
      rw [cutsFrom]
      split_ifs with hs <;> simp [hs]
  | cons t ts ih =>
      rw [cutsFrom, List.length_append, ih, List.map_cons (a := s), List.countP_cons]
      split_ifs with hs
      · exact Nat.add_comm _ _
      · exact Nat.zero_add _

/-- Blanks in front aside, the pieces of a filtered fragment are those that are not selected. -/
theorem dropWhile_pieces_prune {F : Fragment} (hF : F.Fits Fragment.soundShape) :
    ((sel.prune F).pieces.map Fragment.text).map (List.dropWhile isBlank) =
      ((F.pieces.map Fragment.text).filter fun p => !sel.selects p).map (List.dropWhile isBlank) ++
        if (F.pieces.map Fragment.text).getLast?.any sel.selects then [[]] else [] := by
  have hpieces : ∀ p ∈ F.pieces.filter fun p => !sel.selects p.text,
      p.Fits Fragment.soundShape := fun p hp => hF.pieces p (List.mem_filter.mp hp).1
  have hfilter : (F.pieces.map Fragment.text).filter (fun p => !sel.selects p) =
      (F.pieces.filter fun p => !sel.selects p.text).map Fragment.text := List.filter_map
  have hlast : (F.pieces.map Fragment.text).getLast?.any sel.selects =
      F.pieces.getLast?.any fun p => sel.selects p.text := by
    rw [List.getLast?_map]
    cases F.pieces.getLast? <;> rfl
  have hbodies : ((sel.prune F).pieces.map Fragment.body) =
      (F.pieces.filter fun p => !sel.selects p.text).map Fragment.body ++
        if F.pieces.getLast?.any fun p => sel.selects p.text then [.nil] else [] := by
    rw [pieces_prune]
    exact map_body_refit (fun _ => Fragment.isBlank_of_mem_lead) F.first F.others
  rw [Fragment.map_dropWhile_text (hF.prune sel).pieces, hbodies, hfilter,
    Fragment.map_dropWhile_text hpieces, hlast, List.map_append]
  split_ifs <;> rfl

section Span

variable {text tail : List Char} {start : Nat} {F : Fragment}

theorem length_take_opener {t : List Char} (hdrop : text.drop start = '{' :: t) :
    (text.take (start + 1)).length = start + 1 := by
  have hlength := congrArg List.length hdrop
  rw [List.length_drop, List.length_cons] at hlength
  rw [List.length_take]
  omega

/-- Removal from one span puts the filtered inside in the place of the old one. -/
theorem removeIn_eq (hdrop : text.drop start = '{' :: (F.text ++ '}' :: tail))
    (hF : F.Reads (some '{') ('}' :: tail)) :
    (sel.removeIn text start).text =
        text.take (start + 1) ++ ((sel.prune F).text ++ '}' :: tail) ∧
      (sel.removeIn text start).count = (F.pieces.map Fragment.text).countP sel.selects := by
  have hcur : Cursor text start _ ('{' :: (F.text ++ '}' :: tail)) := ⟨rfl, hdrop⟩
  have hnext := hcur.advance_opener (b := .brace)
  have hclose : closing? text start = some (start + 1 + F.text.length) :=
    closing?_eq_some_iff.mpr ⟨F, tail, hdrop, hF, rfl⟩
  have hcuts := sel.spanCuts_eq hnext.rest_eq (Fragment.sound_of_reads hF)
  rw [spanCuts, Span.segments] at hcuts
  have hbounds : ∀ cut ∈ sel.cutsFrom (start + 1 + F.text.length) (start + 1) F.first F.others, _ :=
    sel.cutsFrom_bounds (by rw [Fragment.join_first_others])
  simp only [removeIn, hclose, segments_fragment hnext hF, hcuts]
  refine ⟨?_, sel.length_cutsFrom _ _ _ _⟩
  have hfront := length_take_opener hdrop
  have hmiddle : keep (sel.cutsFrom (start + 1 + F.text.length) (start + 1) F.first F.others) 0
      (text.take (start + 1) ++ (F.text ++ '}' :: tail)) = _ := keep_middle (by
    intro cut hcut
    have hcut := hbounds cut hcut
    omega)
  rw [Nat.zero_add, hfront, sel.keep_span rfl, ← hnext.rest_eq, List.take_append_drop] at hmiddle
  rw [applyAll_eq_keep text fun cut hcut => Nat.le_of_lt (hbounds cut hcut).2.1, hmiddle]

theorem text_prune_sublist (F : Fragment) : (sel.prune F).text.Sublist F.text := by
  have hkeep : keep (sel.cutsFrom (0 + F.text.length) 0 F.first F.others) 0 F.text =
      (sel.prune F).text := sel.keep_span rfl
  rw [← hkeep]
  exact keep_sublist _ _ _

/-- Removal from one span only deletes. -/
theorem removeIn_sublist (text : List Char) (start : Nat) :
    (sel.removeIn text start).text.Sublist text := by
  cases hclose : closing? text start with
  | none =>
      simp only [removeIn, hclose]
      exact List.Sublist.refl text
  | some close =>
      obtain ⟨F, tail, hdrop, hF, -⟩ := closing?_eq_some_iff.mp hclose
      have hsplit : text = text.take (start + 1) ++ (F.text ++ '}' :: tail) := by
        rw [← (Cursor.advance_opener (b := .brace) ⟨rfl, hdrop⟩).rest_eq, List.take_append_drop]
      rw [(sel.removeIn_eq hdrop hF).1]
      conv => rhs; rw [hsplit]
      exact ((sel.text_prune_sublist F).append_right _).append_left _

theorem drop_splice {t : List Char} (hdrop : text.drop start = '{' :: t) (inside : List Char) :
    (text.take (start + 1) ++ inside).drop start = '{' :: inside := by
  have hlength := congrArg List.length hdrop
  rw [List.length_drop, List.length_cons] at hlength
  have htake : text.take (start + 1) = text.take start ++ ['{'] := by
    rw [List.take_add, hdrop]
    rfl
  rw [htake, List.append_assoc, List.drop_left' (by rw [List.length_take]; omega)]
  rfl

end Span

/-- Where every slash that the walk over a span meets opens a comment, removal filters the list of
properties of that span. What stands in front of the inside and behind it stays. -/
theorem removeIn_filters_properties (sel : Selection) (text : List Char) (start close : Nat)
    (hclose : closing? text start = some close)
    (hslash : ∀ i, WalkAt text start i → i < close → ¬ BareSlash text i) :
    ∃ listed, properties text start close = .ok listed ∧
      (sel.removeIn text start).count = listed.countP sel.selects ∧
      ∃ close', closing? (sel.removeIn text start).text start = some close' ∧
        (sel.removeIn text start).text.take (start + 1) = text.take (start + 1) ∧
        (sel.removeIn text start).text.drop close' = text.drop close ∧
        ∃ left, properties (sel.removeIn text start).text start close' = .ok left ∧
          left.map (List.dropWhile isBlank) =
            (listed.filter fun p => !sel.selects p).map (List.dropWhile isBlank) ++
              if listed.getLast?.any sel.selects then [[]] else [] := by
  obtain ⟨F, tail, hdrop, hsteady, rfl⟩ := exists_steady_span hclose hslash
  have hF := Fragment.reads_of_steady hsteady (some '{') ('}' :: tail)
  have hcur : Cursor text start _ ('{' :: (F.text ++ '}' :: tail)) := ⟨rfl, hdrop⟩
  have hnext := hcur.advance_opener (b := .brace)
  have hpruned := hsteady.prune sel
  obtain ⟨htext, hcount⟩ := sel.removeIn_eq hdrop hF
  have hdrop' := drop_splice hdrop ((sel.prune F).text ++ '}' :: tail)
  rw [← htext] at hdrop'
  have hfront := length_take_opener hdrop
  have hreads := Fragment.reads_of_steady hpruned (some '{') ('}' :: tail)
  refine ⟨_, properties_eq hdrop hF, hcount, _,
    closing?_eq_some_iff.mpr ⟨_, tail, hdrop', hreads, rfl⟩, ?_, ?_, _,
    properties_eq hdrop' hreads, ?_⟩
  · rw [htext, List.take_left' hfront]
  · rw [hnext.advance.rest_eq]
    exact (Cursor.advance_opener (b := .brace) ⟨rfl, hdrop'⟩).advance.rest_eq
  · exact sel.dropWhile_pieces_prune (Fragment.sound_of_steady hsteady)

theorem removeIn_filters_properties_comment :
    ∃ close left,
      properties ((Selection.mk ["b".toList] false).removeIn
        "\x7b b: '\x7d', a: \x7bb: 1\x7d /* b, */, b: [2, 3] \x7d".toList 0).text 0 close = .ok left ∧
      left.map (List.dropWhile isBlank) = ["a: \x7bb: 1\x7d /* b, */".toList, []] := by
  have hclose : closing? "\x7b b: '\x7d', a: \x7bb: 1\x7d /* b, */, b: [2, 3] \x7d".toList 0 = some 40 := by
    decide +kernel
  have hlisted :
      (properties "\x7b b: '\x7d', a: \x7bb: 1\x7d /* b, */, b: [2, 3] \x7d".toList 0 40).toOption =
        some [" b: '\x7d'".toList, " a: \x7bb: 1\x7d /* b, */".toList, " b: [2, 3] ".toList] := by
    decide +kernel
  have hbare : ∀ i < 40, BareSlash "\x7b b: '\x7d', a: \x7bb: 1\x7d /* b, */, b: [2, 3] \x7d".toList i →
      i = 27 := by
    unfold BareSlash
    decide +kernel
  have hstep : ∀ i < 21,
      (literalEnd "\x7b b: '\x7d', a: \x7bb: 1\x7d /* b, */, b: [2, 3] \x7d".toList i).toOption.all
        fun j => if j = i then i < 20 else j < 21 ∨ 27 < j := by
    decide +kernel
  generalize "\x7b b: '\x7d', a: \x7bb: 1\x7d /* b, */, b: [2, 3] \x7d".toList = text at *
  -- the walk passes over the comment, whose last character is the only bare slash
  have hwalk : ∀ i, WalkAt text 0 i → i < 21 ∨ 27 < i := by
    intro i hi
    induction hi with
    | start => omega
    | @literal i j _ hend hne ih =>
        have hle := (literalLength_of_literalEnd hend).2.1
        rcases ih with hi | hi
        · simpa [hend, hne, Except.toOption] using hstep i hi
        · omega
    | @char i _ hend ih =>
        rcases ih with hi | hi
        · have hlt : i < 20 := by simpa [hend, Except.toOption] using hstep i hi
          omega
        · omega
  obtain ⟨listed, hlisted', -, close, -, -, -, left, hleft, hmap⟩ :=
    removeIn_filters_properties (Selection.mk ["b".toList] false) text 0 40 hclose (by
      intro i hi hlt hslash
      have hpassed := hwalk i hi
      have hwhere := hbare i hlt hslash
      omega)
  rw [hlisted'] at hlisted
  obtain rfl := Option.some.inj hlisted
  refine ⟨close, left, hleft, hmap.trans ?_⟩
  decide +kernel

end Pruner.Object.Selection
