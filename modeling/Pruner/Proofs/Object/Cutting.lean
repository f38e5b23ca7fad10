import Pruner.Proofs.Object.Deletion
import Pruner.Proofs.Object.Stripping
import Pruner.Proofs.Scan.Agreement

/-!
# Cuts against filtered fragments

A selected piece goes from its body to the body of the next piece, or to the closer when it is the
last one. Cutting out all of them leaves the text of the filtered fragment.
-/

namespace Pruner.Scan.Fragment

open Object Text

theorem blanks_text {F : Fragment} (hF : F.Fits soundShape) {t : List Char}
    (ht : ∀ c t', t = c :: t' → isBlank c = false) : blanks (F.text ++ t) = F.lead.length := by
  have hnone : ∀ {c : Char} {cs : List Char}, isBlank c = false → blanks (c :: cs) = 0 := by
    intro c cs hc
    rw [blanks_cons, hc]
    rfl
  induction F with
  | nil =>
      cases t with
      | nil => rfl
      | cons c cs => exact hnone (ht c cs rfl)
  | literal s rest _ =>
      obtain ⟨hs, -⟩ := hF
      rcases hs with ⟨cs, rfl⟩ | ⟨quote, cs, hquote, rfl, -⟩
      · exact hnone (by decide)
      · exact hnone (isBlank_of_isQuote hquote)
  | plain c rest ih =>
      rw [text_plain, List.cons_append, blanks_cons, lead, ih hF.2]
      split_ifs <;> rfl
  | group a b inner rest _ _ => exact hnone (isBlank_opener a)

theorem blanks_text_self {F : Fragment} (hF : F.Fits soundShape) :
    blanks F.text = F.lead.length := by
  have hnil : blanks (F.text ++ []) = F.lead.length := blanks_text hF (by simp)
  rwa [List.append_nil] at hnil

theorem commas_append (F G : Fragment) (index : Nat) :
    (F ++ G).commas index = F.commas index ++ G.commas (index + F.text.length) := by
  induction F generalizing index with
  | nil => rfl
  | literal s rest ih =>
      rw [literal_append, commas, commas, ih, text_literal, List.length_append, Nat.add_assoc]
  | plain c rest ih =>
      rw [plain_append, commas_plain, commas_plain, ih, text_plain, List.length_cons,
        List.append_assoc, Nat.add_comm rest.text.length, ← Nat.add_assoc]
  | group a b inner rest _ ih =>
      rw [group_append, commas, commas, ih, end_group a b]

theorem commas_of_others_nil {F : Fragment} (h : F.others = []) (index : Nat) :
    F.commas index = [] := by
  induction F generalizing index with
  | nil => rfl
  | literal s rest ih => exact ih h _
  | plain c rest ih =>
      by_cases hc : c = ','
      · simp [others, hc] at h
      · rw [others, if_neg hc] at h
        rw [commas, if_neg hc]
        exact ih h _
  | group a b inner rest _ ih => exact ih h _

/-- The first comma of a list of pieces stands behind the first piece. -/
theorem commas_join {s : Fragment} (hs : s.others = []) (t : Fragment) (ts : List Fragment)
    (index : Nat) :
    (join s (t :: ts)).commas index =
      (index + s.text.length) :: (join t ts).commas (index + s.text.length + 1) := by
  rw [join, commas_append, commas_of_others_nil hs, commas_plain, if_pos rfl]
  rfl

theorem join_pad (s : Fragment) (ss : List Fragment) :
    join s ss = pad s.lead (join s.body ss) := by
  cases ss with
  | nil => exact s.pad_lead_body.symm
  | cons t ts => rw [join, join, ← pad_append, s.pad_lead_body]

theorem text_join (s : Fragment) (ss : List Fragment) :
    (join s ss).text = s.lead ++ (join s.body ss).text := by
  rw [join_pad, text_pad]

end Pruner.Scan.Fragment

namespace Pruner.Object.Selection

open Scan Text Cut

variable (sel : Selection)

/-- The cuts of the selected pieces of a span that closes at `close`. -/
def cutsFrom (close : Nat) : Nat → Fragment → List Fragment → List Cut
  | index, s, [] => if sel.selects s.text then [⟨index + s.lead.length, close⟩] else []
  | index, s, t :: ts =>
    (if sel.selects s.text then
        [⟨index + s.lead.length, index + s.text.length + 1 + t.lead.length⟩] else []) ++
      cutsFrom close (index + s.text.length + 1) t ts

theorem lead_length_le (F : Fragment) : F.lead.length ≤ F.text.length := by
  rw [F.text_eq_lead_append, List.length_append]
  omega

/-- A selected piece has a body. -/
theorem lead_length_lt {s : Fragment} (hs : sel.selects s.text = true) :
    s.lead.length < s.text.length := by
  have hlength := congrArg List.length s.text_eq_lead_append
  rw [List.length_append] at hlength
  have hne : s.body.text ≠ [] := by
    intro hnil
    rw [← selects_body, hnil, selects_nil] at hs
    cases hs
  have hpos := List.length_pos_iff.mpr hne
  omega

theorem cutsFrom_bounds {close index : Nat} {s : Fragment} {ss : List Fragment}
    (hclose : close = index + (Fragment.join s ss).text.length) :
    ∀ cut ∈ sel.cutsFrom close index s ss,
      index + s.lead.length ≤ cut.start ∧ cut.start < cut.stop ∧ cut.stop ≤ close := by
  induction ss generalizing index s with
  | nil =>
      intro cut hcut
      rw [Fragment.join] at hclose
      rw [cutsFrom] at hcut
      split_ifs at hcut with hs
      · obtain rfl := List.mem_singleton.mp hcut
        have hlead := sel.lead_length_lt hs
        simp only
        omega
      · simp at hcut
  | cons t ts ih =>
      have hlead := lead_length_le s
      have hnext : (Fragment.join t ts).text.length = t.lead.length +
          (Fragment.join t.body ts).text.length := by
        rw [Fragment.text_join, List.length_append]
      rw [Fragment.join, Fragment.text_append, Fragment.text_plain, List.length_append,
        List.length_cons] at hclose
      intro cut hcut
      rw [cutsFrom, List.mem_append] at hcut
      rcases hcut with hcut | hcut
      · split_ifs at hcut
        · obtain rfl := List.mem_singleton.mp hcut
          simp only
          omega
        · simp at hcut
      · have hbounds := ih (by omega) cut hcut
        omega

/-- The cuts found by index are those of the pieces between the commas. -/
theorem cuts_between {text tail : List Char} {index close : Nat} {s : Fragment}
    {ss : List Fragment} (hdrop : text.drop index = (Fragment.join s ss).text ++ '}' :: tail)
    (hclose : close = index + (Fragment.join s ss).text.length) (hs : s.others = [])
    (hss : ∀ t ∈ ss, Fragment.others t = []) (hsound : s.Fits Fragment.soundShape)
    (hsounds : ∀ t ∈ ss, t.Fits Fragment.soundShape) :
    sel.cuts text close (Segment.between index ((Fragment.join s ss).commas index) close) =
      sel.cutsFrom close index s ss := by
  have hblanks := Fragment.blanks_text_self hsound
  induction ss generalizing index s with
  | nil =>
      rw [Fragment.join] at hdrop hclose
      rw [Fragment.join, Fragment.commas_of_others_nil hs, Segment.between_nil, cutsFrom]
      have hslice : Segment.slice text ⟨index, close⟩ = s.text := by
        simp [Segment.slice, hdrop, hclose]
      simp only [cuts, List.filterMap_cons, List.filterMap_nil, cut?, hslice, hblanks,
        Nat.lt_irrefl, if_false]
      rw [Nat.min_eq_right (Nat.le_add_right _ _)]
      split_ifs <;> simp_all
  | cons t ts ih =>
      have ht := hss t (by simp)
      have htsound := hsounds t (by simp)
      have hcommas := Fragment.commas_join hs t ts index
      rw [Fragment.join, Fragment.text_append, Fragment.text_plain] at hdrop hclose
      rw [List.length_append, List.length_cons] at hclose
      have hnext : text.drop (index + s.text.length + 1) =
          (Fragment.join t ts).text ++ '}' :: tail := by
        rw [Nat.add_assoc, ← List.drop_drop, hdrop, List.append_assoc, List.drop_length_add_append]
        rfl
      have hblanksNext : blanks (text.drop (index + s.text.length + 1)) = t.lead.length := by
        rw [hnext]
        cases ts with
        | nil => exact Fragment.blanks_text htsound fun c _ h => by cases h; decide
        | cons u us =>
            rw [Fragment.join, Fragment.text_append, List.append_assoc]
            exact Fragment.blanks_text htsound fun c _ h => by cases h; decide
      have hih := ih hnext (by omega) ht (fun u hu => hss u (by simp [hu])) htsound
        (fun u hu => hsounds u (by simp [hu])) (Fragment.blanks_text_self htsound)
      have hslice : Segment.slice text ⟨index, index + s.text.length⟩ = s.text := by
        simp [Segment.slice, hdrop]
      have hlead := lead_length_le t
      have hjoin : (Fragment.join t ts).text.length = t.lead.length +
          (Fragment.join t.body ts).text.length := by
        rw [Fragment.text_join, List.length_append]
      rw [hcommas, Segment.between_cons, cutsFrom, ← hih]
      simp only [cuts, List.filterMap_cons, cut?, hslice, hblanks]
      rw [if_pos (by omega : index + s.text.length < close), hblanksNext,
        Nat.min_eq_left (by omega : index + s.text.length + 1 + t.lead.length ≤ close)]
      split_ifs <;> rfl

/-! ### One level -/

/-- What is left of the pieces behind their first blanks when other cuts are made, too. -/
def leftover (other : List Cut) : Nat → Fragment → List Fragment → List Char
  | index, s, [] =>
    if sel.selects s.text then [] else keep other (index + s.lead.length) s.body.text
  | index, s, t :: ts =>
    (if sel.selects s.text then []
      else keep other (index + s.lead.length) (s.body.text ++ ',' :: t.lead)) ++
        leftover other (index + s.text.length + 1) t ts

theorem keep_cutsFrom {close index : Nat} {s : Fragment} {ss : List Fragment}
    (hclose : close = index + (Fragment.join s ss).text.length) (other : List Cut) :
    keep (sel.cutsFrom close index s ss ++ other) (index + s.lead.length)
        (Fragment.join s.body ss).text =
      sel.leftover other index s ss := by
  have hlength := congrArg List.length s.text_eq_lead_append
  rw [List.length_append] at hlength
  induction ss generalizing index s with
  | nil =>
      rw [Fragment.join] at hclose
      rw [cutsFrom, leftover, Fragment.join]
      split_ifs
      · apply keep_covered
        intro p hp hp'
        have hcover : covers ⟨index + s.lead.length, close⟩ p = true := covers_iff.mpr (by
          simp only
          omega)
        simp [hcover]
      · rfl
  | cons t ts ih =>
      have hlengthNext := congrArg List.length t.text_eq_lead_append
      rw [List.length_append] at hlengthNext
      rw [Fragment.join, Fragment.text_append, Fragment.text_plain, List.length_append,
        List.length_cons] at hclose
      have hcloseNext : close = index + s.text.length + 1 + (Fragment.join t ts).text.length := by
        omega
      have hnext := ih hcloseNext hlengthNext
      have hbounds := sel.cutsFrom_bounds hcloseNext
      have htext : (Fragment.join s.body (t :: ts)).text =
          (s.body.text ++ ',' :: t.lead) ++ (Fragment.join t.body ts).text := by
        rw [Fragment.join, Fragment.text_append, Fragment.text_plain, Fragment.text_join]
        simp
      have hindex : index + s.lead.length + (s.body.text ++ ',' :: t.lead).length =
          index + s.text.length + 1 + t.lead.length := by
        rw [List.length_append, List.length_cons]
        omega
      rw [cutsFrom, leftover, htext, keep_append, hindex]
      have hlater : Outside (sel.cutsFrom close (index + s.text.length + 1) t ts)
          (index + s.lead.length)
          (index + s.lead.length + (s.body.text ++ ',' :: t.lead).length) := by
        intro cut hcut
        have hcut := hbounds cut hcut
        omega
      split_ifs
      · have hfront : keep ([⟨index + s.lead.length, index + s.text.length + 1 + t.lead.length⟩] ++
            sel.cutsFrom close (index + s.text.length + 1) t ts ++ other)
            (index + s.lead.length) (s.body.text ++ ',' :: t.lead) = [] := by
          apply keep_covered
          intro p hp hp'
          have hcover : covers ⟨index + s.lead.length, index + s.text.length + 1 + t.lead.length⟩ p =
              true := covers_iff.mpr (by
            simp only
            omega)
          simp [hcover]
        have hown : Outside [⟨index + s.lead.length, index + s.text.length + 1 + t.lead.length⟩]
            (index + s.text.length + 1 + t.lead.length)
            (index + s.text.length + 1 + t.lead.length + (Fragment.join t.body ts).text.length) := by
          intro cut hcut
          obtain rfl := List.mem_singleton.mp hcut
          exact .inl (Nat.le_refl _)
        rw [hfront, List.append_assoc, keep_outside_append hown, hnext]
      · rw [List.nil_append, hnext, keep_outside_append hlater]

theorem leftover_nil (index : Nat) (s : Fragment) (ss : List Fragment) :
    sel.leftover [] index s ss = (sel.pruneFrom s ss).text := by
  induction ss generalizing index s with
  | nil =>
      rw [leftover, pruneFrom, keep_no_cuts]
      split_ifs <;> rfl
  | cons t ts ih =>
      rw [leftover, pruneFrom, keep_no_cuts, ih]
      split_ifs <;> simp

theorem keep_pieces {F : Fragment} {index close : Nat} (hclose : close = index + F.text.length)
    (other : List Cut) (hother : Outside other index (index + F.first.lead.length)) :
    keep (sel.cutsFrom close index F.first F.others ++ other) index F.text =
      F.first.lead ++ sel.leftover other index F.first F.others := by
  have hjoin := Fragment.join_first_others F
  have htext := Fragment.text_join F.first F.others
  rw [← hjoin] at hclose
  rw [hjoin] at htext
  have hlead : Outside (sel.cutsFrom close index F.first F.others) index
      (index + F.first.lead.length) := by
    intro cut hcut
    exact .inr (sel.cutsFrom_bounds hclose cut hcut).1
  rw [htext, keep_append, keep_outside (hlead.append hother), sel.keep_cutsFrom hclose other]

/-- Cutting the selected pieces of one span leaves its filtered inside. -/
theorem keep_span {F : Fragment} {index close : Nat} (hclose : close = index + F.text.length) :
    keep (sel.cutsFrom close index F.first F.others) index F.text = (sel.prune F).text := by
  have hkeep := sel.keep_pieces hclose [] fun cut hcut => by simp at hcut
  rw [List.append_nil, leftover_nil] at hkeep
  rw [hkeep, prune, Fragment.text_pad]

theorem spanCuts_eq {text tail : List Char} {index : Nat} {F : Fragment}
    (hdrop : text.drop (index + 1) = F.text ++ '}' :: tail) (hF : F.Fits Fragment.soundShape) :
    sel.spanCuts text ⟨index, index + 1 + F.text.length, F.commas (index + 1)⟩ =
      sel.cutsFrom (index + 1 + F.text.length) (index + 1) F.first F.others := by
  have hjoin := Fragment.join_first_others F
  have hcuts : sel.cuts text (index + 1 + F.text.length)
      (Segment.between (index + 1) ((Fragment.join F.first F.others).commas (index + 1))
        (index + 1 + F.text.length)) = _ :=
    sel.cuts_between (by rw [hjoin, hdrop]) (by rw [hjoin]) F.others_first
      (fun _ => Fragment.others_of_mem_others) hF.first hF.others
  rw [hjoin] at hcuts
  exact hcuts

end Pruner.Object.Selection
