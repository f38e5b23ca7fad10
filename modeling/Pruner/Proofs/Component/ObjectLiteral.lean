import Pruner.Proofs.Component.Lookup
import Pruner.Proofs.Object.SpanFilter
import Pruner.Proofs.Scan.Surroundings

/-!
# Object literals as values

An expression is taken for an object literal when the closer of its inner brace is the last character
in front of its own closer and blanks. That is so exactly when blanks are all that stands between its
braces and an object that is balanced by itself. Blanks hold no slash, so in front of them the object
is read as it is alone, and removal from the expression is removal from that object.
-/

namespace Pruner.Component

open Assignment Object Scan Text

/-! ### Blanks at the end -/

theorem trimmedLength_le (text : List Char) : trimmedLength text ≤ text.length := by
  have hle := (List.dropWhile_sublist isBlank (l := text.reverse)).length_le
  rwa [List.length_reverse] at hle

theorem trimmedLength_eq_iff {s t : List Char} {c : Char} (hc : isBlank c = false) :
    trimmedLength (s ++ c :: t) = s.length + 1 ↔ ∀ d ∈ t, isBlank d = true := by
  have hreverse : (s ++ c :: t).reverse = t.reverse ++ c :: s.reverse := by simp
  rw [trimmedLength, hreverse, List.dropWhile_append]
  split_ifs with hblank
  · rw [List.isEmpty_iff, List.dropWhile_eq_nil_iff] at hblank
    have hlength : ((c :: s.reverse).dropWhile isBlank).length = s.length + 1 := by simp [hc]
    constructor
    · intro _ d hd
      exact hblank d (List.mem_reverse.mpr hd)
    · intro _
      exact hlength
  · constructor
    · intro hlength
      have hpos := List.length_pos_iff.mpr (mt List.isEmpty_iff.mpr hblank)
      rw [List.length_append, List.length_cons, List.length_reverse] at hlength
      omega
    · intro ht
      apply absurd _ hblank
      rw [List.isEmpty_iff, List.dropWhile_eq_nil_iff]
      intro d hd
      exact ht d (List.mem_reverse.mp hd)

/-! ### An object between blanks -/

/-- Blanks and an object that is balanced by itself make up an expression. -/
structure Wraps (expression before object behind : List Char) : Prop where
  split : expression = '{' :: (before ++ (object ++ (behind ++ ['}'])))
  before_blank : ∀ c ∈ before, isBlank c = true
  behind_blank : ∀ c ∈ behind, isBlank c = true
  head : object.head? = some '{'
  balanced : closing? object 0 = some (object.length - 1)

section Parts

variable {expression before object behind : List Char}

theorem exists_fragment_of_balanced (h : closing? object 0 = some (object.length - 1)) :
    ∃ F : Fragment, object = '{' :: (F.text ++ ['}']) ∧ F.Reads (some '{') ['}'] := by
  obtain ⟨F, tail, hobject, hF, hlength⟩ := closing?_eq_some_iff.mp h
  rw [List.drop_zero] at hobject
  have htail : tail = [] := by
    rw [hobject, List.length_cons, List.length_append, List.length_cons] at hlength
    apply List.eq_nil_of_length_eq_zero
    omega
  subst htail
  exact ⟨F, hobject, hF⟩

/-- Behind the object come blanks and a brace, so it is read the same way inside the expression. -/
theorem Wraps.exists_fragment (h : Wraps expression before object behind) :
    ∃ F : Fragment, object = '{' :: (F.text ++ ['}']) ∧ F.Reads (some '{') ['}'] ∧
      expression.drop (contentStart expression) = '{' :: (F.text ++ '}' :: (behind ++ ['}'])) ∧
      F.Reads (some '{') ('}' :: (behind ++ ['}'])) := by
  obtain ⟨F, rfl, hF⟩ := exists_fragment_of_balanced h.balanced
  have hslash : '/' ∉ behind ++ ['}'] := by
    intro hmem
    rcases List.mem_append.mp hmem with hmem | hmem
    · exact absurd (h.behind_blank '/' hmem) (by decide)
    · simp at hmem
  refine ⟨F, rfl, hF, ?_, hF.append (by simp) hslash⟩
  have hsplit := h.split
  rw [List.cons_append] at hsplit
  rw [hsplit, contentStart_braced h.before_blank, List.drop_succ_cons, List.drop_left,
    List.append_assoc, List.singleton_append]

theorem Wraps.braced (h : Wraps expression before object behind) : Braced expression := by
  obtain ⟨rest, hrest⟩ := List.head?_eq_some_iff.mp h.head
  refine ⟨'{', before, rest ++ (behind ++ ['}']), ?_, h.before_blank⟩
  rw [h.split, hrest, List.cons_append]

end Parts

/-! ### Recognition -/

/-- What stands behind the inner closer decides. -/
theorem wrapsObject_eq_true_iff {expression tail : List Char} {F : Fragment}
    (hdrop : expression.drop (contentStart expression) = '{' :: (F.text ++ '}' :: tail))
    (hF : F.Reads (some '{') ('}' :: tail)) :
    wrapsObject expression = true ↔ tail ≠ [] ∧ ∀ c ∈ tail.dropLast, isBlank c = true := by
  have hclose : closing? expression (contentStart expression) =
      some (contentStart expression + 1 + F.text.length) :=
    closing?_eq_some_iff.mpr ⟨F, tail, hdrop, hF, rfl⟩
  have hlength := congrArg List.length hdrop
  rw [List.length_drop, List.length_cons, List.length_append, List.length_cons] at hlength
  rw [wrapsObject, hclose]
  simp only [beq_iff_eq]
  by_cases htail : tail = []
  · have hle := trimmedLength_le expression.dropLast
    rw [List.length_dropLast] at hle
    rw [htail, List.length_nil] at hlength
    constructor
    · intro heq
      omega
    · rintro ⟨hne, -⟩
      exact absurd htail hne
  · have hsplit : expression =
        (expression.take (contentStart expression) ++ '{' :: F.text) ++ '}' :: tail := by
      rw [List.append_assoc, List.cons_append, ← hdrop, List.take_append_drop]
    have hfront : (expression.take (contentStart expression) ++ '{' :: F.text).length =
        contentStart expression + 1 + F.text.length := by
      rw [List.length_append, List.length_take, List.length_cons]
      omega
    have hdropLast : expression.dropLast =
        (expression.take (contentStart expression) ++ '{' :: F.text) ++ '}' :: tail.dropLast := by
      conv_lhs => rw [hsplit]
      rw [List.dropLast_append_cons, List.dropLast_cons_of_ne_nil htail]
    rw [hdropLast, ← hfront, eq_comm, trimmedLength_eq_iff (by rfl)]
    exact (and_iff_right htail).symm

theorem Wraps.wrapsObject {expression before object behind : List Char}
    (h : Wraps expression before object behind) : wrapsObject expression = true := by
  obtain ⟨F, -, -, hdrop, hF⟩ := h.exists_fragment
  apply (wrapsObject_eq_true_iff hdrop hF).mpr
  refine ⟨by simp, ?_⟩
  rw [List.dropLast_concat]
  exact h.behind_blank

theorem exists_wraps {expression : List Char} (hfirst : expression.head? = some '{')
    (hlast : expression.getLast? = some '}') (h : wrapsObject expression = true) :
    ∃ before object behind, Wraps expression before object behind := by
  obtain ⟨close, hclose⟩ := exists_closing h
  obtain ⟨F, tail, hdrop, hF, rfl⟩ := closing?_eq_some_iff.mp hclose
  obtain ⟨htail, hblank⟩ := (wrapsObject_eq_true_iff hdrop hF).mp h
  obtain ⟨-, halone⟩ := span_alone hdrop hF
  obtain ⟨t, rfl⟩ := List.head?_eq_some_iff.mp hfirst
  rw [contentStart, List.tail_cons, Nat.add_comm, List.drop_succ_cons] at hdrop
  obtain ⟨before, hbefore, -, ht⟩ := exists_blanks t
  rw [hdrop] at ht
  have hend : tail.dropLast ++ ['}'] = tail := by
    have hfront : '{' :: t = ('{' :: (before ++ '{' :: (F.text ++ ['}']))) ++ tail := by
      rw [ht]
      simp
    rw [hfront, List.getLast?_append_of_ne_nil _ htail] at hlast
    exact List.dropLast_append_getLast? _ hlast
  refine ⟨before, '{' :: (F.text ++ ['}']), tail.dropLast, ?_, hbefore, hblank, rfl, ?_⟩
  · rw [List.cons_append, List.append_assoc, List.singleton_append, hend, ← ht]
  · apply closing?_eq_some_iff.mpr
    refine ⟨F, [], rfl, halone, ?_⟩
    rw [List.length_cons, List.length_append, List.length_singleton]
    omega

/-! ### Removal -/

theorem Wraps.removeIn_eq {expression before object behind : List Char}
    (h : Wraps expression before object behind) (sel : Selection) :
    sel.removeIn expression (contentStart expression) =
      ⟨'{' :: (before ++ ((sel.removeIn object 0).text ++ (behind ++ ['}']))),
        (sel.removeIn object 0).count⟩ := by
  obtain ⟨F, hobject, halone, hdrop, hF⟩ := h.exists_fragment
  obtain ⟨htext, hcount⟩ := sel.removeIn_eq hdrop hF
  have hwhole : object.drop 0 = '{' :: (F.text ++ ['}']) := hobject
  obtain ⟨htext', hcount'⟩ := sel.removeIn_eq hwhole halone
  have hfront : expression.take (contentStart expression + 1) = '{' :: (before ++ ['{']) := by
    have hsplit := h.split
    rw [hobject, List.cons_append] at hsplit
    rw [hsplit, contentStart_braced h.before_blank, take_braced]
  rw [Removal.mk.injEq, htext, htext', hcount, hcount', hfront]
  refine ⟨?_, rfl⟩
  simp [hobject]

/-- Expressions that are object literals are those with blanks alone around a balanced object, and
removal from one of them leaves all but that object as it is. -/
theorem wrapsObject_iff_wraps (expression : List Char) (hfirst : expression.head? = some '{')
    (hlast : expression.getLast? = some '}') :
    wrapsObjectAt expression = .ok (wrapsObject expression) ∧
      (wrapsObject expression = true ↔
        ∃ before object behind, Wraps expression before object behind) ∧
      ∀ before object behind, Wraps expression before object behind → ∀ sel : Selection,
        sel.removeInAt object 0 = .ok (sel.removeIn object 0) ∧
          (indexFrom expression '{' 1 >>= sel.removeInAt expression) =
            .ok (sel.removeIn expression (contentStart expression)) ∧
          sel.removeIn expression (contentStart expression) =
            ⟨'{' :: (before ++ ((sel.removeIn object 0).text ++ (behind ++ ['}']))),
              (sel.removeIn object 0).count⟩ := by
  refine ⟨wrapsObjectAt_eq expression, ⟨exists_wraps hfirst hlast, ?_⟩, ?_⟩
  · rintro ⟨before, object, behind, h⟩
    exact h.wrapsObject
  · intro before object behind h sel
    refine ⟨sel.removeInAt_eq object 0, ?_, h.removeIn_eq sel⟩
    rw [h.braced.indexFrom_eq, Miss.bind_ok, Selection.removeInAt_eq]

theorem wrapsObject_iff_wraps_regex :
    Wraps "\x7b\u00a0\x7b a: '\x7d', b: /[/\x7d]/g /* \x7b */, a \x7d\n\x7d".toList "\u00a0".toList
        "\x7b a: '\x7d', b: /[/\x7d]/g /* \x7b */, a \x7d".toList "\n".toList ∧
      ((⟨["a".toList], true⟩ : Selection).removeIn
          "\x7b\u00a0\x7b a: '\x7d', b: /[/\x7d]/g /* \x7b */, a \x7d\n\x7d".toList 2).text =
        "\x7b\u00a0\x7b b: /[/\x7d]/g /* \x7b */, \x7d\n\x7d".toList ∧
      ¬ ∃ before object behind,
        Wraps "\x7b \x7ba: 1\x7d / 2 \x7d".toList before object behind := by
  have hwraps : Wraps "\x7b\u00a0\x7b a: '\x7d', b: /[/\x7d]/g /* \x7b */, a \x7d\n\x7d".toList
      "\u00a0".toList "\x7b a: '\x7d', b: /[/\x7d]/g /* \x7b */, a \x7d".toList "\n".toList :=
    ⟨by decide +kernel, List.all_eq_true.mp (by decide +kernel),
      List.all_eq_true.mp (by decide +kernel), by decide +kernel, by decide +kernel⟩
  have hclose : closing? "\x7b a: '\x7d', b: /[/\x7d]/g /* \x7b */, a \x7d".toList 0 = some 32 := by
    decide +kernel
  have hparts : segments "\x7b a: '\x7d', b: /[/\x7d]/g /* \x7b */, a \x7d".toList 1 32 =
      .ok [⟨1, 8⟩, ⟨9, 28⟩, ⟨29, 32⟩] := by
    decide +kernel
  have hobject : ((⟨["a".toList], true⟩ : Selection).removeIn
      "\x7b a: '\x7d', b: /[/\x7d]/g /* \x7b */, a \x7d".toList 0).text =
        "\x7b b: /[/\x7d]/g /* \x7b */, \x7d".toList := by
    simp only [Selection.removeIn, hclose, hparts]
    rw [Cut.applyAll_eq_keep _ (by decide +kernel)]
    decide +kernel
  obtain ⟨-, -, hremoval⟩ := wrapsObject_iff_wraps
    "\x7b\u00a0\x7b a: '\x7d', b: /[/\x7d]/g /* \x7b */, a \x7d\n\x7d".toList (by decide +kernel)
    (by decide +kernel)
  -- a quotient whose first operand looks like an object
  obtain ⟨-, hquotient, -⟩ := wrapsObject_iff_wraps "\x7b \x7ba: 1\x7d / 2 \x7d".toList
    (by decide +kernel) (by decide +kernel)
  have hstart : contentStart
      "\x7b\u00a0\x7b a: '\x7d', b: /[/\x7d]/g /* \x7b */, a \x7d\n\x7d".toList = 2 := by
    decide +kernel
  obtain ⟨-, -, hisolated⟩ := hremoval _ _ _ hwraps ⟨["a".toList], true⟩
  rw [hstart, hobject] at hisolated
  refine ⟨hwraps, ?_, ?_⟩
  · rw [hisolated]
    decide +kernel
  · rw [← hquotient]
    decide +kernel

end Pruner.Component
