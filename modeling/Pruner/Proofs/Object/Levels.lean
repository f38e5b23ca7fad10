import Pruner.Proofs.Object.Cutting

/-!
# Cuts at every level

The cuts of all spans of a fragment are made at once. A cut in the value of a property that goes is
covered by the cut of that property, and all other cuts meet no other level, so what is left is the
stripped fragment.
-/

namespace Pruner.Object.Selection

open Scan Text Cut

variable (sel : Selection)

/-- The cuts of all spans inside a fragment that begins at `index`. -/
def innerCuts : Fragment → Nat → List Cut
  | .nil, _ => []
  | .literal s rest, index => innerCuts rest (index + s.length)
  | .plain _ rest, index => innerCuts rest (index + 1)
  | .group a _ inner rest, index =>
      innerCuts inner (index + 1) ++
        (if a = .brace then
            sel.cutsFrom (index + 1 + inner.text.length) (index + 1) inner.first inner.others
          else []) ++
          innerCuts rest (index + 1 + inner.text.length + 1)

theorem flatMap_spans {text tail : List Char} {index : Nat} {prior : Option Char} (F : Fragment)
    (hmatched : F.matched = true) (hF : F.Reads prior tail)
    (hcur : Cursor text index prior (F.text ++ tail)) :
    (F.spans index).flatMap (sel.spanCuts text) = sel.innerCuts F index := by
  induction F generalizing prior index tail with
  | nil => rfl
  | literal s rest ih =>
      obtain ⟨hs, hlen, hrest⟩ := hF
      rw [Fragment.text_literal, List.append_assoc] at hcur
      exact ih hmatched hrest hcur.advance
  | plain c rest ih =>
      obtain ⟨_, _, _, hrest⟩ := hF
      exact ih hmatched hrest hcur.advance_char
  | group a b inner rest ihi ihr =>
      obtain ⟨hinner, hrest⟩ := hF
      simp only [Fragment.matched, Bool.and_eq_true, decide_eq_true_eq] at hmatched
      obtain ⟨rfl, hmi, hmr⟩ := hmatched
      rw [Fragment.text_group_append] at hcur
      have hcurInner := hcur.advance_opener
      have hcurRest := hcurInner.advance.advance_closer
      rw [Fragment.spans, innerCuts, List.flatMap_append, List.flatMap_append,
        ihi hmi hinner hcurInner, ihr hmr hrest hcurRest]
      congr 2
      split_ifs with ha
      · subst ha
        rw [List.flatMap_singleton]
        exact sel.spanCuts_eq hcurInner.rest_eq (Fragment.sound_of_reads hinner)
      · rfl

theorem innerCuts_append (F G : Fragment) (index : Nat) :
    sel.innerCuts (F ++ G) index =
      sel.innerCuts F index ++ sel.innerCuts G (index + F.text.length) := by
  induction F generalizing index with
  | nil => rfl
  | literal s rest ih =>
      rw [Fragment.literal_append, innerCuts, innerCuts, ih, Fragment.text_literal,
        List.length_append, Nat.add_assoc]
  | plain c rest ih =>
      rw [Fragment.plain_append, innerCuts, innerCuts, ih, Fragment.text_plain, List.length_cons,
        Nat.add_comm rest.text.length, ← Nat.add_assoc]
  | group a b inner rest _ ih =>
      rw [Fragment.group_append, innerCuts, innerCuts, ih, Fragment.end_group a b]
      simp only [List.append_assoc]

theorem innerCuts_pad (cs : List Char) (F : Fragment) (index : Nat) :
    sel.innerCuts (.pad cs F) index = sel.innerCuts F (index + cs.length) := by
  induction cs generalizing index with
  | nil => rfl
  | cons c cs ih =>
      rw [Fragment.pad_cons, innerCuts, ih, List.length_cons, Nat.add_assoc, Nat.add_comm 1]

theorem innerCuts_bounds (F : Fragment) (index : Nat) :
    ∀ cut ∈ sel.innerCuts F index,
      index ≤ cut.start ∧ cut.start < cut.stop ∧ cut.stop ≤ index + F.text.length := by
  induction F generalizing index with
  | nil => simp [innerCuts]
  | literal s rest ih =>
      intro cut hcut
      have hbounds := ih (index + s.length) cut hcut
      rw [Fragment.text_literal, List.length_append]
      omega
  | plain c rest ih =>
      intro cut hcut
      have hbounds := ih (index + 1) cut hcut
      rw [Fragment.text_plain, List.length_cons]
      omega
  | group a b inner rest ihi ihr =>
      intro cut hcut
      simp only [Fragment.text_group, List.length_cons, List.length_append]
      rw [innerCuts, List.mem_append, List.mem_append] at hcut
      rcases hcut with (hcut | hcut) | hcut
      · have hbounds := ihi (index + 1) cut hcut
        omega
      · split_ifs at hcut
        · have hbounds := sel.cutsFrom_bounds (by rw [Fragment.join_first_others]) cut hcut
          omega
        · simp at hcut
      · have hbounds := ihr (index + 1 + inner.text.length + 1) cut hcut
        omega

theorem innerCuts_lead (F : Fragment) (index : Nat) :
    sel.innerCuts F index = sel.innerCuts F.body (index + F.lead.length) := by
  conv => lhs; rw [← F.pad_lead_body, innerCuts_pad]

theorem innerCuts_join (s : Fragment) (ss : List Fragment) (index : Nat) :
    ∀ cut ∈ sel.innerCuts (.join s ss) index, index + s.lead.length ≤ cut.start := by
  intro cut hcut
  rw [Fragment.join_pad, innerCuts_pad] at hcut
  exact (sel.innerCuts_bounds _ _ cut hcut).1

/-- Cutting at all levels of a fragment leaves the stripped one. -/
def CutsStrip (F : Fragment) : Prop :=
  ∀ index, keep (sel.innerCuts F index) index F.text = (sel.strip F).text

section CutsStrip

variable {sel} {F : Fragment}

theorem CutsStrip.body (h : sel.CutsStrip F) (index : Nat) :
    keep (sel.innerCuts F index) (index + F.lead.length) F.body.text = (sel.strip F).body.text := by
  have hlead : Outside (sel.innerCuts F index) index (index + F.lead.length) := by
    intro cut hcut
    rw [innerCuts_lead] at hcut
    exact .inr (sel.innerCuts_bounds _ _ cut hcut).1
  have hwhole := h index
  rw [F.text_eq_lead_append, keep_append, keep_outside hlead, (sel.strip F).text_eq_lead_append,
    lead_strip] at hwhole
  exact List.append_cancel_left hwhole

theorem leftover_outside {xs other : List Cut} {index : Nat}
    (hxs : ∀ cut ∈ xs, cut.stop ≤ index) (s : Fragment) (ss : List Fragment) :
    sel.leftover (xs ++ other) index s ss = sel.leftover other index s ss := by
  have hout : ∀ a b, index ≤ a → Outside xs a b := by
    intro a b ha cut hcut
    have hstop := hxs cut hcut
    omega
  induction ss generalizing index s with
  | nil =>
      rw [leftover, leftover, keep_outside_append (hout _ _ (by omega))]
  | cons t ts ih =>
      rw [leftover, leftover, keep_outside_append (hout _ _ (by omega)),
        ih (fun cut hcut => Nat.le_trans (hxs cut hcut) (by omega)) t fun a b ha => hout a b (by omega)]

theorem leftover_innerCuts {s : Fragment} {ss : List Fragment} (index : Nat)
    (hs : sel.CutsStrip s) (hss : ∀ t ∈ ss, sel.CutsStrip t)
    (hsound : s.Fits Fragment.soundShape) (hsounds : ∀ t ∈ ss, t.Fits Fragment.soundShape) :
    sel.leftover (sel.innerCuts (.join s ss) index) index s ss =
      (sel.pruneFrom (sel.strip s) (ss.map sel.strip)).text := by
  have hsel := sel.selects_strip sel hsound
  induction ss generalizing index s with
  | nil =>
      rw [List.map_nil, leftover, pruneFrom, Fragment.join, hs.body, hsel]
      split_ifs <;> rfl
  | cons t ts ih =>
      have htsound := hsounds t (by simp)
      have hnext := ih (index + s.text.length + 1) (hss t (by simp))
        (fun u hu => hss u (by simp [hu])) htsound (fun u hu => hsounds u (by simp [hu]))
        (sel.selects_strip sel htsound)
      have hcuts : sel.innerCuts (.join s (t :: ts)) index =
          sel.innerCuts s index ++ sel.innerCuts (.join t ts) (index + s.text.length + 1) := by
        rw [Fragment.join, innerCuts_append]
        rfl
      have hfirst := sel.innerCuts_bounds s index
      have hlength := congrArg List.length s.text_eq_lead_append
      rw [List.length_append] at hlength
      have hlater := sel.innerCuts_join t ts (index + s.text.length + 1)
      rw [List.map_cons, leftover, pruneFrom, hsel, hcuts,
        leftover_outside (fun cut hcut => Nat.le_trans (hfirst cut hcut).2.2 (by omega)), hnext]
      split_ifs
      · rfl
      · -- the body of the piece is cut by its own cuts, its comma and the blanks behind by none
        have hbody : keep (sel.innerCuts s index ++
            sel.innerCuts (.join t ts) (index + s.text.length + 1)) (index + s.lead.length)
            s.body.text = (sel.strip s).body.text := by
          rw [keep_append_outside, hs.body]
          intro cut hcut
          have hstart := hlater cut hcut
          omega
        have hcomma : keep (sel.innerCuts s index ++
            sel.innerCuts (.join t ts) (index + s.text.length + 1))
            (index + s.lead.length + s.body.text.length) (',' :: t.lead) = ',' :: t.lead := by
          refine keep_outside (Outside.append ?_ ?_)
          · intro cut hcut
            have hstop := (hfirst cut hcut).2.2
            omega
          · intro cut hcut
            have hstart := hlater cut hcut
            rw [List.length_cons]
            omega
        rw [keep_append, hbody, hcomma, Fragment.text_append, Fragment.text_plain,
          Fragment.text_pad, lead_strip]
        simp

theorem cutsStrip_literal {s : List Char} {rest : Fragment} (h : sel.CutsStrip rest) :
    sel.CutsStrip (.literal s rest) := by
  intro index
  have hs : Outside (sel.innerCuts rest (index + s.length)) index (index + s.length) := by
    intro cut hcut
    exact .inr (sel.innerCuts_bounds _ _ cut hcut).1
  rw [innerCuts, Fragment.text_literal, keep_append, keep_outside hs, h]
  rfl

theorem cutsStrip_plain {c : Char} {rest : Fragment} (h : sel.CutsStrip rest) :
    sel.CutsStrip (.plain c rest) := by
  intro index
  have hc : Outside (sel.innerCuts rest (index + 1)) index (index + [c].length) := by
    intro cut hcut
    exact .inr (sel.innerCuts_bounds _ _ cut hcut).1
  have hsplit : (Fragment.plain c rest).text = [c] ++ rest.text := rfl
  rw [innerCuts, hsplit, keep_append, keep_outside hc]
  exact congrArg (c :: ·) (h (index + 1))

/-- The inside of a group under its own cuts and those further inside. -/
theorem keep_inner {inner : Fragment} {a : Bracket} (hinner : sel.CutsStrip inner)
    (hfirst : sel.CutsStrip inner.first) (hothers : ∀ t ∈ inner.others, sel.CutsStrip t)
    (hsound : inner.Fits Fragment.soundShape) (index : Nat) :
    keep (sel.innerCuts inner index ++
        (if a = .brace then
            sel.cutsFrom (index + inner.text.length) index inner.first inner.others else []))
        index inner.text =
      (if a = .brace then sel.prune (sel.strip inner) else sel.strip inner).text := by
  split_ifs
  · have hlead : Outside (sel.innerCuts inner index) index (index + inner.first.lead.length) := by
      intro cut hcut
      rw [← Fragment.join_first_others inner] at hcut
      exact .inr (sel.innerCuts_join _ _ _ cut hcut)
    have hkeep := sel.keep_pieces rfl _ hlead
    have hleft := leftover_innerCuts index hfirst hothers hsound.first hsound.others
    rw [Fragment.join_first_others] at hleft
    rw [hleft] at hkeep
    rw [prune, first_strip, others_strip, lead_strip, Fragment.text_pad, ← hkeep]
    apply keep_congr
    intro p _ _
    rw [List.any_append, List.any_append, Bool.or_comm]
  · rw [List.append_nil]
    exact hinner index

theorem cutsStrip_group {a b : Bracket} {inner rest : Fragment} (hinner : sel.CutsStrip inner)
    (hfirst : sel.CutsStrip inner.first) (hothers : ∀ t ∈ inner.others, sel.CutsStrip t)
    (hsound : inner.Fits Fragment.soundShape) (hrest : sel.CutsStrip rest) :
    sel.CutsStrip (.group a b inner rest) := by
  intro index
  have hin := sel.innerCuts_bounds inner (index + 1)
  have hlater := sel.innerCuts_bounds rest (index + 1 + inner.text.length + 1)
  have hown : ∀ cut ∈ (if a = .brace then
      sel.cutsFrom (index + 1 + inner.text.length) (index + 1) inner.first inner.others else []),
      index + 1 ≤ cut.start ∧ cut.stop ≤ index + 1 + inner.text.length := by
    intro cut hcut
    split_ifs at hcut
    · have hbounds := sel.cutsFrom_bounds (by rw [Fragment.join_first_others]) cut hcut
      omega
    · simp at hcut
  have hinside := keep_inner (a := a) hinner hfirst hothers hsound (index + 1)
  have hsplit : (Fragment.group a b inner rest).text =
      [a.opener] ++ (inner.text ++ ([b.closer] ++ rest.text)) := rfl
  rw [innerCuts, hsplit, keep_append, keep_append, keep_append, keep_outside,
    keep_append_outside, List.length_singleton, hinside, keep_outside, List.length_singleton,
    keep_outside_append, hrest]
  · rfl
  · intro cut hcut
    rcases List.mem_append.mp hcut with hcut | hcut
    · have hbounds := hin cut hcut
      omega
    · have hbounds := hown cut hcut
      omega
  · refine Outside.append (Outside.append ?_ ?_) ?_
    · intro cut hcut
      have hbounds := hin cut hcut
      omega
    · intro cut hcut
      have hbounds := hown cut hcut
      omega
    · intro cut hcut
      have hbounds := hlater cut hcut
      exact .inr hbounds.1
  · intro cut hcut
    have hbounds := hlater cut hcut
    rw [List.length_singleton]
    omega
  · refine Outside.append (Outside.append ?_ ?_) ?_
    · intro cut hcut
      have hbounds := hin cut hcut
      exact .inr hbounds.1
    · intro cut hcut
      have hbounds := hown cut hcut
      exact .inr hbounds.1
    · intro cut hcut
      have hbounds := hlater cut hcut
      rw [List.length_singleton]
      omega

/-- The pieces of a fragment are cut like the fragment itself. -/
theorem cutsStrip_all (F : Fragment) (hsound : F.Fits Fragment.soundShape) :
    sel.CutsStrip F ∧ sel.CutsStrip F.first ∧ ∀ t ∈ F.others, sel.CutsStrip t := by
  induction F with
  | nil => exact ⟨fun _ => rfl, fun _ => rfl, by simp [Fragment.others]⟩
  | literal s rest ih =>
      obtain ⟨hrest, hfirst, hothers⟩ := ih hsound.2
      exact ⟨cutsStrip_literal hrest, cutsStrip_literal hfirst, hothers⟩
  | plain c rest ih =>
      obtain ⟨hrest, hfirst, hothers⟩ := ih hsound.2
      refine ⟨cutsStrip_plain hrest, ?_⟩
      rw [Fragment.first, Fragment.others]
      split_ifs
      · refine ⟨fun _ => rfl, fun t ht => ?_⟩
        rcases List.mem_cons.mp ht with rfl | ht
        · exact hfirst
        · exact hothers t ht
      · exact ⟨cutsStrip_plain hfirst, hothers⟩
  | group a b inner rest ihi ihr =>
      obtain ⟨-, hinnerSound, hrestSound⟩ := hsound
      obtain ⟨hinner, hinnerFirst, hinnerOthers⟩ := ihi hinnerSound
      obtain ⟨hrest, hfirst, hothers⟩ := ihr hrestSound
      exact ⟨cutsStrip_group hinner hinnerFirst hinnerOthers hinnerSound hrest,
        cutsStrip_group hinner hinnerFirst hinnerOthers hinnerSound hfirst, hothers⟩

end CutsStrip

end Pruner.Object.Selection
