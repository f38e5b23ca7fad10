import Pruner.Proofs.Assignment.Erasure
import Pruner.Proofs.Object.Steady

/-!
# Expressions erased in one pass

The search for expressions looks for an opening brace first and for its closer afterwards, and goes on
in the text from which it has just erased. For a name without braces this is the one pass for
expressions as whole values: every match that begins inside an unbalanced one ends at the same brace.
-/

namespace Pruner.Assignment

open Scan Text

/-- An expression from its opening brace to the brace that closes it. -/
def expression : ValueKind
  | '{' :: w => (innerLength? w).map (· + 2)
  | _ => none

theorem expression_eq_some {w : List Char} {n : Nat} (h : expression w = some n) :
    ∃ w' inner, w = '{' :: w' ∧ innerLength? w' = some inner ∧ n = inner + 2 := by
  unfold expression at h
  split at h
  · obtain ⟨inner, hinner, rfl⟩ := Option.map_eq_some_iff.mp h
    exact ⟨_, inner, rfl, hinner, rfl⟩
  · cases h

theorem solid_expression : Solid expression := by
  intro w n h
  obtain ⟨w', inner, rfl, -, rfl⟩ := expression_eq_some h
  exact ⟨Nat.succ_pos _, rfl⟩

theorem expression_of_ne {c : Char} (hc : c ≠ '{') (cs : List Char) : expression (c :: cs) = none := by
  cases h : expression (c :: cs) with
  | none => rfl
  | some n =>
      obtain ⟨_, _, hcons, -, -⟩ := expression_eq_some h
      exact absurd (List.cons.inj hcons).1 hc

theorem expression_eq_none_iff (text : List Char) (i : Nat) :
    expression (text.drop i) = none ↔ closing? text i = none := by
  unfold closing?
  cases text.drop i with
  | nil => simp [expression]
  | cons c cs =>
      by_cases hc : c = '{'
      · subst hc
        simp [expression]
      · simp [expression_of_ne hc, hc]

/-! ### The brace of a match -/

theorem brace_inj {s s' w w' : List Char} (hs : '{' ∉ s) (hs' : '{' ∉ s')
    (h : s ++ '{' :: w = s' ++ '{' :: w') : w = w' := by
  have hfirst : ∀ {s t : List Char}, '{' ∉ s → (s ++ '{' :: t).takeWhile (· ≠ '{') = s := by
    intro s t hmem
    rw [List.takeWhile_append_of_pos fun c hc => ?_]
    · simp
    · have hne : c ≠ '{' := fun heq => hmem (heq ▸ hc)
      simpa using hne
  have hsame : s = s' := by
    rw [← hfirst hs, h, hfirst hs']
  subst hsame
  exact (List.cons.inj (List.append_cancel_left h)).2

section Brace

variable {name : List Char}

theorem bodyLength?_openBrace {rest : List Char} {k : Nat}
    (h : bodyLength? openBrace name rest = some k) :
    ∃ s, rest = s ++ '{' :: rest.drop k ∧ s.length + 1 = k ∧ ('{' ∉ name → '{' ∉ s) := by
  obtain ⟨gap, gap', w, n, rfl, hgap, hgap', hn, rfl⟩ := bodyLength?_eq_some h
  obtain ⟨rfl, w', rfl⟩ := openBrace_eq_some hn
  have hsplit : name ++ (gap ++ '=' :: (gap' ++ '{' :: w')) =
      (name ++ (gap ++ '=' :: gap')) ++ '{' :: w' := by
    simp
  have hlength : (name ++ (gap ++ '=' :: gap')).length + 1 =
      name.length + gap.length + 1 + gap'.length + 1 := by
    simp only [List.length_append, List.length_cons]
    omega
  refine ⟨name ++ (gap ++ '=' :: gap'), ?_, hlength, fun hname => ?_⟩
  · rw [hsplit, ← hlength, ← List.drop_drop, List.drop_left]
    rfl
  · have hstem : Stem name (' ' :: (name ++ (gap ++ '=' :: gap'))) :=
      ⟨[' '], gap, gap', rfl, by simp, List.forall_mem_singleton.mpr rfl, hgap, hgap'⟩
    exact fun hmem => hstem.not_mem_brace hname (List.mem_cons_of_mem _ hmem)

theorem matchAt?_openBrace {text : List Char} {m : Match}
    (h : matchAt? openBrace name text = some m) :
    ∃ s, text = s ++ '{' :: text.drop (m.lead + m.body) ∧ s.length + 1 = m.lead + m.body ∧
      Stem name s := by
  obtain ⟨stem, w, n, htext, hstem, hn, hlength, -⟩ := exists_stem_of_match h
  obtain ⟨rfl, w', rfl⟩ := openBrace_eq_some hn
  refine ⟨stem, ?_, hlength, hstem⟩
  rw [← hlength, ← List.drop_drop, htext, List.drop_left]
  rfl

theorem bodyLength?_expression (rest : List Char) :
    bodyLength? expression name rest =
      (bodyLength? openBrace name rest).bind fun k =>
        (innerLength? (rest.drop k)).map fun inner => k + inner + 1 := by
  unfold bodyLength?
  split_ifs with hname
  · obtain ⟨behind, rfl⟩ := List.isPrefixOf_iff_prefix.mp hname
    simp only [List.drop_left]
    split
    · rename_i right hright
      -- both kinds look for their value at the same place
      cases hvalue : right.drop (blanks right) with
      | nil => rfl
      | cons c w =>
          by_cases hc : c = '{'
          · subst hc
            have hdrop : (name ++ behind).drop
                (name.length + blanks behind + 1 + blanks right + 1) = w := by
              rw [← List.drop_drop, ← List.drop_drop, ← List.drop_drop, ← List.drop_drop,
                List.drop_left, hright, List.drop_succ_cons, List.drop_zero, hvalue,
                List.drop_succ_cons, List.drop_zero]
            simp only [expression, openBrace, Option.map_some, Option.bind_some, hdrop,
              Option.map_map]
            congr 1
            funext inner
            simp only [Function.comp]
            omega
          · have hopen : openBrace (c :: w) = none := by
              cases h : openBrace (c :: w) with
              | none => rfl
              | some n =>
                  obtain ⟨-, _, hcons⟩ := openBrace_eq_some h
                  exact absurd (List.cons.inj hcons).1 hc
            rw [expression_of_ne hc, hopen]
            rfl
    · rfl
  · rfl

/-- A whole expression is found where an opening brace is found and closes. -/
theorem matchAt?_expression (hname : '{' ∉ name) (text : List Char) :
    matchAt? expression name text =
      (matchAt? openBrace name text).bind fun m =>
        (innerLength? (text.drop (m.lead + m.body))).map fun inner =>
          ⟨m.lead, m.body + inner + 1, m.lead_pos⟩ := by
  induction text with
  | nil => rfl
  | cons c cs ih =>
      rw [matchAt?, matchAt?]
      split_ifs
      · cases hopen : matchAt? openBrace name cs with
        | none =>
            rw [hopen] at ih
            simp only [ih, Option.bind_none, bodyLength?_expression]
            cases bodyLength? openBrace name cs with
            | none => rfl
            | some k =>
                simp only [Option.bind_some, Option.map_some, Option.map_map, Nat.add_comm 1 k,
                  List.drop_succ_cons]
                rfl
        | some m =>
            rw [hopen, Option.bind_some] at ih
            have hdrop : (c :: cs).drop (m.lead + 1 + m.body) = cs.drop (m.lead + m.body) := by
              rw [Nat.add_right_comm, List.drop_succ_cons]
            cases hinner : innerLength? (cs.drop (m.lead + m.body)) with
            | some inner =>
                rw [hinner] at ih
                simp [ih, hdrop, hinner]
            | none =>
                -- a shorter run of blanks ends at the same brace
                rw [hinner] at ih
                simp only [ih, Option.map_none, Option.bind_some, hdrop, hinner,
                  bodyLength?_expression]
                cases hbody : bodyLength? openBrace name cs with
                | none => rfl
                | some k =>
                    obtain ⟨s, hs, -, hmem⟩ := bodyLength?_openBrace hbody
                    obtain ⟨s', hs', -, hstem⟩ := matchAt?_openBrace hopen
                    have hsame := brace_inj (hmem hname) (hstem.not_mem_brace hname)
                      (hs.symm.trans hs')
                    simp [hsame, hinner]
      · rfl

theorem matchAt?_expression_eq_none {text : List Char} (hname : '{' ∉ name)
    (h : matchAt? openBrace name text = none) : matchAt? expression name text = none := by
  rw [matchAt?_expression hname, h]
  rfl

/-- Wherever a match begins inside an unbalanced one, it is unbalanced, too. -/
theorem matchAt?_expression_of_unbalanced (hname : '{' ∉ name) {text : List Char} {m : Match}
    (hm : matchAt? openBrace name text = some m)
    (hinner : innerLength? (text.drop (m.lead + m.body)) = none) {k : Nat}
    (hk : k < m.lead + m.body) : matchAt? expression name (text.drop k) = none := by
  rw [matchAt?_expression hname]
  cases hopen : matchAt? openBrace name (text.drop k) with
  | none => rfl
  | some m' =>
      obtain ⟨s, hs, hlength, hstem⟩ := matchAt?_openBrace hm
      obtain ⟨s', hs', -, hstem'⟩ := matchAt?_openBrace hopen
      have hshift : text.drop k = s.drop k ++ '{' :: text.drop (m.lead + m.body) := by
        conv => lhs; rw [hs, List.drop_append_of_le_length (by omega)]
      have hmem : '{' ∉ s.drop k :=
        fun hmem => hstem.not_mem_brace hname (List.mem_of_mem_drop hmem)
      have hsame := brace_inj hmem (hstem'.not_mem_brace hname) (hshift.symm.trans hs')
      rw [Option.bind_some, ← hsame, hinner]
      rfl

end Brace

/-! ### The search -/

theorem eraseExpressionsFrom_sublist (name code : List Char) (index : Nat) :
    (eraseExpressionsFrom name code index).Sublist code := by
  fun_induction eraseExpressionsFrom name code index with
  | case1 => exact List.Sublist.refl _
  | case2 code index ahead m _ _ _ ih => exact ih
  | case3 code index ahead m _ _ inner _ ih =>
      exact ih.trans (take_append_drop_sublist (by omega))

theorem eraseExpressions_sublist (name code : List Char) :
    (eraseExpressions name code).Sublist code :=
  eraseExpressionsFrom_sublist name code 0

section Search

variable {name text : List Char} {ahead : Nat} {m : Match} (hname : '{' ∉ name)
  (hfind : find? openBrace name text = some (ahead, m))

include hname hfind

/-- The pass leaves everything up to the brace of an unbalanced match. -/
theorem eraseKind_unbalanced
    (hinner : innerLength? (text.drop (ahead + (m.lead + m.body))) = none) :
    eraseKind expression name text =
      text.take (ahead + (m.lead + m.body)) ++
        eraseKind expression name (text.drop (ahead + (m.lead + m.body))) := by
  obtain ⟨hmatch, hbefore⟩ := find?_eq_some hfind
  apply eraseKind_skip
  intro k hk
  by_cases hlt : k < ahead
  · exact matchAt?_expression_eq_none hname (hbefore k hlt)
  · rw [← List.drop_drop] at hinner
    have hnone := matchAt?_expression_of_unbalanced hname hmatch hinner
      (by omega : k - ahead < m.lead + m.body)
    rwa [List.drop_drop, Nat.add_sub_cancel' (by omega)] at hnone

/-- The pass erases a balanced match from its name to its closing brace. -/
theorem eraseKind_balanced {inner : Nat}
    (hinner : innerLength? (text.drop (ahead + (m.lead + m.body))) = some inner) :
    eraseKind expression name text =
      text.take (ahead + m.lead) ++
        eraseKind expression name (text.drop (ahead + (m.lead + (m.body + inner + 1)))) := by
  obtain ⟨hmatch, hbefore⟩ := find?_eq_some hfind
  rw [← List.drop_drop] at hinner
  have hfound := matchAt?_expression hname (text.drop ahead)
  rw [hmatch, Option.bind_some, hinner, Option.map_some] at hfound
  rw [eraseKind_skip fun k hk => matchAt?_expression_eq_none hname (hbefore k hk),
    eraseKind_match hfound, List.drop_drop, List.take_add, List.append_assoc]

end Search

/-- Behind `index` the search erases what one pass erases. -/
theorem eraseExpressionsFrom_eq {name : List Char} (hname : '{' ∉ name) (code : List Char)
    (index : Nat) :
    eraseExpressionsFrom name code index =
      code.take index ++ eraseKind expression name (code.drop index) := by
  fun_induction eraseExpressionsFrom name code index with
  | case1 code index hnone =>
      have hself : eraseKind expression name (code.drop index) = code.drop index := by
        rw [eraseKind_eq_self_iff_match]
        intro k
        exact matchAt?_expression_eq_none hname ((find?_eq_none_iff _).mp hnone k)
      rw [hself, List.take_append_drop]
  | case2 code index ahead m hm next hinner ih =>
      have hnext : next + m.body = index + (ahead + (m.lead + m.body)) := by
        simp only [next]
        omega
      rw [hnext, ← List.drop_drop] at hinner
      rw [ih, hnext, eraseKind_unbalanced hname hm hinner, List.take_add, List.drop_drop,
        List.append_assoc]
  | case3 code index ahead m hm next inner hinner ih =>
      have hnext : next = index + (ahead + m.lead) := by
        simp only [next]
        omega
      have hbehind : next + m.body + inner + 1 =
          index + (ahead + (m.lead + (m.body + inner + 1))) := by
        omega
      have hbrace : next + m.body = index + (ahead + (m.lead + m.body)) := by
        omega
      have hlength : (code.take next).length = next := by
        obtain ⟨-, hlead, -⟩ := match_bounds (find?_eq_some hm).1
        rw [List.length_drop, List.length_drop] at hlead
        rw [List.length_take]
        omega
      rw [hbrace, ← List.drop_drop] at hinner
      rw [ih, List.take_left' hlength, List.drop_left' hlength, hbehind,
        eraseKind_balanced hname hm hinner, hnext, List.take_add, List.drop_drop,
        List.append_assoc]

theorem eraseExpressions_eq {name : List Char} (hname : '{' ∉ name) (code : List Char) :
    eraseExpressions name code = eraseKind expression name code :=
  eraseExpressionsFrom_eq hname code 0

/-- Whatever the name, the search changes nothing when no braces behind an assignment balance. -/
theorem eraseExpressionsFrom_eq_self {name code : List Char} (index : Nat)
    (h : ∀ i, AssignedAt name code i → closing? code i = none) :
    eraseExpressionsFrom name code index = code := by
  fun_induction eraseExpressionsFrom name code index with
  | case1 => rfl
  | case2 code index ahead m _ _ _ ih => exact ih h
  | case3 code index ahead m hm next inner hinner _ =>
      obtain ⟨s, hs, hlength, hstem⟩ := matchAt?_openBrace (find?_eq_some hm).1
      have hnext : index + ahead + (m.lead + m.body) = next + m.body := by
        simp only [next]
        omega
      rw [List.drop_drop, List.drop_drop, hnext] at hs
      have htake : code.take (index + ahead + s.length) = code.take (index + ahead) ++ s := by
        rw [List.take_add, hs, List.take_left]
      have hnone := (expression_eq_none_iff code _).mpr (h _ ⟨_, s, htake, hstem⟩)
      rw [← List.drop_drop, hs, List.drop_left, expression, hinner] at hnone
      cases hnone

theorem eraseExpressions_eq_self_iff {name : List Char} (hname : '{' ∉ name) (code : List Char) :
    eraseExpressions name code = code ↔ ∀ i, AssignedAt name code i → closing? code i = none := by
  rw [eraseExpressions_eq hname, eraseKind_eq_self_iff solid_expression]
  exact forall_congr' fun i => imp_congr_right fun _ => expression_eq_none_iff code i

/-! ### Expressions left whole -/

/-- Balanced braces in a stretch without expressions have a bare slash between them, so that what
stands behind the stretch decides whether they balance. -/
theorem bareSlash_of_unassigned {name w : List Char} (hw : Unassigned expression name w) {i close : Nat}
    (hassigned : AssignedAt name w i) (hclose : closing? w i = some close) :
    ∃ j, WalkAt w i j ∧ j < close ∧ BareSlash w j := by
  by_cases hslash : ∃ j, WalkAt w i j ∧ j < close ∧ BareSlash w j
  · exact hslash
  · obtain ⟨F, tail, hdrop, hF, -⟩ := exists_steady_span hclose fun j hj hlt hbare =>
      hslash ⟨j, hj, hlt, hbare⟩
    obtain ⟨v, hv⟩ := hw i hassigned
    have hinner : innerLength? (F.text ++ '}' :: (tail ++ v)) = some F.text.length :=
      innerLength?_eq_some_iff.mpr ⟨F, tail ++ v, rfl, Fragment.reads_of_steady hF _ _, rfl⟩
    rw [hdrop, List.cons_append, List.append_assoc, List.cons_append, expression, hinner] at hv
    cases hv

end Pruner.Assignment
