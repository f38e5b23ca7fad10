import Pruner.Object.Property
import Pruner.Proofs.Scan.Fragment

/-!
# Filtering the pieces of a fragment

The commas of a fragment divide it into pieces, each with blanks in front of a body. A filtered
fragment keeps the first blanks, and behind them every body that is not selected together with the
comma and the blanks that follow it. Filtering for two lists of names, one after the other, is
filtering for both at once.
-/

namespace Pruner.Scan.Fragment

open Object Text

/-! ### Concatenation -/

def append : Fragment → Fragment → Fragment
  | nil, G => G
  | literal s rest, G => literal s (rest.append G)
  | plain c rest, G => plain c (rest.append G)
  | group a b inner rest, G => group a b inner (rest.append G)

instance : Append Fragment := ⟨append⟩

@[simp] theorem nil_append (G : Fragment) : nil ++ G = G := rfl

@[simp] theorem literal_append (s : List Char) (F G : Fragment) :
    literal s F ++ G = literal s (F ++ G) := rfl

@[simp] theorem plain_append (c : Char) (F G : Fragment) : plain c F ++ G = plain c (F ++ G) := rfl

@[simp] theorem group_append (a b : Bracket) (inner F G : Fragment) :
    group a b inner F ++ G = group a b inner (F ++ G) := rfl

@[simp] theorem text_append (F G : Fragment) : (F ++ G).text = F.text ++ G.text := by
  induction F with
  | nil => rfl
  | literal s rest ih => simp [ih]
  | plain c rest ih => simp [ih]
  | group a b inner rest _ ih => simp [ih]

/-! ### Pieces -/

/-- The piece in front of the first comma. -/
def first : Fragment → Fragment
  | nil => nil
  | literal s rest => literal s rest.first
  | plain c rest => if c = ',' then nil else plain c rest.first
  | group a b inner rest => group a b inner rest.first

/-- The pieces behind the first comma. -/
def others : Fragment → List Fragment
  | nil => []
  | literal _ rest => rest.others
  | plain c rest => if c = ',' then rest.first :: rest.others else rest.others
  | group _ _ _ rest => rest.others

def pieces (F : Fragment) : List Fragment :=
  F.first :: F.others

def join : Fragment → List Fragment → Fragment
  | s, [] => s
  | s, t :: ts => s ++ plain ',' (join t ts)

theorem join_first_others (F : Fragment) : join F.first F.others = F := by
  have hlift : ∀ (G : Fragment) (ts : List Fragment) (f : Fragment → Fragment),
      (∀ s t : Fragment, f (s ++ t) = f s ++ t) → join (f G) ts = f (join G ts) := by
    intro G ts f hf
    cases ts with
    | nil => rfl
    | cons t ts => exact (hf G _).symm
  induction F with
  | nil => rfl
  | literal s rest ih =>
      rw [first, others, hlift _ _ (literal s) fun _ _ => rfl, ih]
  | plain c rest ih =>
      by_cases hc : c = ','
      · simp [first, others, hc, join, ih]
      · rw [first, others, if_neg hc, if_neg hc, hlift _ _ (plain c) fun _ _ => rfl, ih]
  | group a b inner rest _ ih =>
      rw [first, others, hlift _ _ (group a b inner) fun _ _ => rfl, ih]

theorem first_of_others_nil {F : Fragment} (h : F.others = []) : F.first = F := by
  have hjoin := join_first_others F
  rwa [h] at hjoin

@[simp] theorem others_first (F : Fragment) : F.first.others = [] := by
  induction F with
  | nil => rfl
  | literal s rest ih => exact ih
  | plain c rest ih => by_cases hc : c = ',' <;> simp [first, others, hc, ih]
  | group a b inner rest _ ih => exact ih

theorem others_of_mem_others {F s : Fragment} (h : s ∈ F.others) : s.others = [] := by
  induction F with
  | nil => simp [others] at h
  | literal _ rest ih => exact ih h
  | plain c rest ih =>
      by_cases hc : c = ','
      · rw [others, if_pos hc, List.mem_cons] at h
        rcases h with rfl | h
        · exact others_first rest
        · exact ih h
      · rw [others, if_neg hc] at h
        exact ih h
  | group _ _ _ rest _ ih => exact ih h

theorem pieces_append_comma {F : Fragment} (h : F.others = []) (G : Fragment) :
    (F ++ plain ',' G).pieces = F :: G.pieces := by
  induction F with
  | nil => rfl
  | literal s rest ih =>
      obtain ⟨hfirst, hothers⟩ := List.cons.inj (ih h)
      simp only [pieces, literal_append, first, others, hfirst, hothers]
  | plain c rest ih =>
      by_cases hc : c = ','
      · simp [others, hc] at h
      · rw [others, if_neg hc] at h
        obtain ⟨hfirst, hothers⟩ := List.cons.inj (ih h)
        simp only [pieces, plain_append, first, others, if_neg hc, hfirst, hothers]
  | group a b inner rest _ ih =>
      obtain ⟨hfirst, hothers⟩ := List.cons.inj (ih h)
      simp only [pieces, group_append, first, others, hfirst, hothers]

/-! ### Blanks in front -/

/-- The blanks in front of a fragment. -/
def lead : Fragment → List Char
  | plain c rest => if isBlank c then c :: rest.lead else []
  | _ => []

/-- A fragment without the blanks in front of it. -/
def body : Fragment → Fragment
  | plain c rest => if isBlank c then rest.body else plain c rest
  | F => F

def pad (blanks : List Char) (F : Fragment) : Fragment :=
  blanks.foldr plain F

@[simp] theorem pad_nil (F : Fragment) : pad [] F = F := rfl

@[simp] theorem pad_cons (c : Char) (cs : List Char) (F : Fragment) :
    pad (c :: cs) F = plain c (pad cs F) := rfl

@[simp] theorem text_pad (cs : List Char) (F : Fragment) : (pad cs F).text = cs ++ F.text := by
  induction cs with
  | nil => rfl
  | cons c cs ih => simp [ih]

theorem pad_append (cs : List Char) (F G : Fragment) : pad cs F ++ G = pad cs (F ++ G) := by
  induction cs with
  | nil => rfl
  | cons c cs ih => simp [ih]

theorem pad_lead_body (F : Fragment) : pad F.lead F.body = F := by
  induction F with
  | nil => rfl
  | literal s rest _ => rfl
  | plain c rest ih => by_cases hc : isBlank c = true <;> simp [lead, body, hc, ih]
  | group a b inner rest _ _ => rfl

theorem text_eq_lead_append (F : Fragment) : F.text = F.lead ++ F.body.text := by
  conv => lhs; rw [← pad_lead_body F, text_pad]

theorem isBlank_of_mem_lead {F : Fragment} {c : Char} (h : c ∈ F.lead) : isBlank c = true := by
  induction F with
  | nil => simp [lead] at h
  | literal s rest _ => simp [lead] at h
  | plain d rest ih =>
      by_cases hd : isBlank d = true
      · rw [lead, if_pos hd, List.mem_cons] at h
        rcases h with rfl | h
        · exact hd
        · exact ih h
      · simp [lead, hd] at h
  | group a b inner rest _ _ => simp [lead] at h

@[simp] theorem lead_body (F : Fragment) : F.body.lead = [] := by
  induction F with
  | nil => rfl
  | literal s rest _ => rfl
  | plain c rest ih => by_cases hc : isBlank c = true <;> simp [body, lead, hc, ih]
  | group a b inner rest _ _ => rfl

theorem body_of_lead_nil {F : Fragment} (h : F.lead = []) : F.body = F := by
  have hpad := pad_lead_body F
  rwa [h] at hpad

section Padding

variable {cs : List Char} (hcs : ∀ c ∈ cs, isBlank c = true)

include hcs

theorem lead_pad (F : Fragment) : (pad cs F).lead = cs ++ F.lead := by
  induction cs with
  | nil => rfl
  | cons c cs ih =>
      have hc := hcs c (by simp)
      simp [lead, hc, ih fun d hd => hcs d (by simp [hd])]

theorem body_pad (F : Fragment) : (pad cs F).body = F.body := by
  induction cs with
  | nil => rfl
  | cons c cs ih =>
      have hc := hcs c (by simp)
      simp [body, hc, ih fun d hd => hcs d (by simp [hd])]

theorem others_pad (F : Fragment) : (pad cs F).others = F.others := by
  induction cs with
  | nil => rfl
  | cons c cs ih =>
      have hc : c ≠ ',' := by
        rintro rfl
        exact absurd (hcs ',' (by simp)) (by decide)
      simp [others, hc, ih fun d hd => hcs d (by simp [hd])]

end Padding

theorem pieces_pad {cs : List Char} (hcs : ∀ c ∈ cs, isBlank c = true) {F : Fragment}
    (h : F.others = []) : (pad cs F).pieces = [pad cs F] := by
  have hothers : (pad cs F).others = [] := by rw [others_pad hcs, h]
  rw [pieces, hothers, first_of_others_nil hothers]

theorem others_body {F : Fragment} (h : F.others = []) : F.body.others = [] := by
  have hpad := others_pad (fun _ => isBlank_of_mem_lead (F := F)) F.body
  rwa [pad_lead_body, h, eq_comm] at hpad

end Pruner.Scan.Fragment

/-! ### Selected properties -/

namespace Pruner.Object

open Scan Text

theorem drop_blanks (text : List Char) : text.drop (blanks text) = text.dropWhile isBlank := by
  induction text with
  | nil => rfl
  | cons c cs ih =>
      by_cases hc : isBlank c = true <;> simp [blanks_cons, hc, ih]

theorem key?_append_blanks (shorthand : Bool) {cs : List Char} (hcs : ∀ c ∈ cs, isBlank c = true)
    (text : List Char) : key? shorthand (cs ++ text) = key? shorthand text := by
  rw [key?, key?, drop_blanks, drop_blanks, List.dropWhile_append_of_pos hcs]

namespace Selection

variable (sel : Selection)

theorem selects_congr {s t : List Char} (h : key? sel.shorthand s = key? sel.shorthand t) :
    sel.selects s = sel.selects t := by
  rw [selects, selects, h]

theorem selects_append_blanks {cs : List Char} (hcs : ∀ c ∈ cs, isBlank c = true)
    (text : List Char) : sel.selects (cs ++ text) = sel.selects text :=
  sel.selects_congr (key?_append_blanks sel.shorthand hcs text)

@[simp] theorem selects_nil : sel.selects [] = false := by
  cases hsel : sel.shorthand <;> simp [selects, key?, leadingKey?, explicitKey?, shorthandKey?, hsel]

theorem selects_body (F : Fragment) : sel.selects F.body.text = sel.selects F.text := by
  rw [F.text_eq_lead_append, selects_append_blanks sel fun _ => Fragment.isBlank_of_mem_lead]

theorem selects_append_names (xs ys : List (List Char)) (shorthand : Bool) (text : List Char) :
    (Selection.mk (xs ++ ys) shorthand).selects text =
      ((Selection.mk xs shorthand).selects text || (Selection.mk ys shorthand).selects text) := by
  simp only [selects]
  cases key? shorthand text with
  | none => rfl
  | some key => simp

/-! ### Filtering -/

/-- What filtering leaves of a list of pieces, the first blanks aside. -/
def pruneFrom : Fragment → List Fragment → Fragment
  | s, [] => if sel.selects s.text then .nil else s.body
  | s, t :: ts =>
    if sel.selects s.text then pruneFrom t ts
    else s.body ++ .plain ',' (.pad t.lead (pruneFrom t ts))

def prune (F : Fragment) : Fragment :=
  .pad F.first.lead (sel.pruneFrom F.first F.others)

/-- The pieces of a filtered list behind the blanks `cs`. -/
def refit (cs : List Char) : Fragment → List Fragment → List Fragment
  | s, [] => [.pad cs (if sel.selects s.text then .nil else s.body)]
  | s, t :: ts =>
    if sel.selects s.text then refit cs t ts else .pad cs s.body :: refit t.lead t ts

theorem refit_ne_nil (cs : List Char) (s : Fragment) (ss : List Fragment) :
    sel.refit cs s ss ≠ [] := by
  induction ss generalizing s cs with
  | nil => simp [refit]
  | cons t ts ih =>
      rw [refit]
      split_ifs
      · exact ih cs t
      · exact List.cons_ne_nil _ _

section Refit

variable {sel} {cs : List Char}

theorem pieces_pad_pruneFrom (hcs : ∀ c ∈ cs, isBlank c = true) {s : Fragment}
    {ss : List Fragment} (hs : s.others = []) (hss : ∀ t ∈ ss, Fragment.others t = []) :
    (Fragment.pad cs (sel.pruneFrom s ss)).pieces = sel.refit cs s ss := by
  induction ss generalizing s cs with
  | nil =>
      rw [pruneFrom, refit]
      split_ifs
      · exact Fragment.pieces_pad hcs rfl
      · exact Fragment.pieces_pad hcs (Fragment.others_body hs)
  | cons t ts ih =>
      have ht := hss t (by simp)
      have hts : ∀ u ∈ ts, Fragment.others u = [] := fun u hu => hss u (by simp [hu])
      rw [pruneFrom, refit]
      split_ifs
      · exact ih hcs ht hts
      · have hbody : (Fragment.pad cs s.body).others = [] := by
          rw [Fragment.others_pad hcs, Fragment.others_body hs]
        have hlead : ∀ c ∈ t.lead, isBlank c = true := fun _ => Fragment.isBlank_of_mem_lead
        rw [← Fragment.pad_append, Fragment.pieces_append_comma hbody, ih hlead ht hts]

theorem pieces_prune (F : Fragment) :
    (sel.prune F).pieces = sel.refit F.first.lead F.first F.others :=
  pieces_pad_pruneFrom (fun _ => Fragment.isBlank_of_mem_lead) (Fragment.others_first F)
    fun _ => Fragment.others_of_mem_others

/-- Filtering keeps the bodies that are not selected. Where the last piece goes, the comma in front
of it leaves an empty one. -/
theorem map_body_refit (hcs : ∀ c ∈ cs, isBlank c = true) (s : Fragment) (ss : List Fragment) :
    (sel.refit cs s ss).map Fragment.body =
      ((s :: ss).filter fun t => !sel.selects t.text).map Fragment.body ++
        if ((s :: ss).getLast?.any fun t => sel.selects t.text) then [.nil] else [] := by
  induction ss generalizing s cs with
  | nil =>
      by_cases hs : sel.selects s.text = true
      · simp [refit, hs, Fragment.body_pad hcs, Fragment.body]
      · simp [refit, hs, Fragment.body_pad hcs, Fragment.body_of_lead_nil]
  | cons t ts ih =>
      have hlead : ∀ c ∈ t.lead, isBlank c = true := fun _ => Fragment.isBlank_of_mem_lead
      rw [refit, List.getLast?_cons_cons]
      by_cases hs : sel.selects s.text = true
      · have hfilter : (s :: t :: ts).filter (fun u => !sel.selects u.text) =
            (t :: ts).filter fun u => !sel.selects u.text :=
          List.filter_cons_of_neg (by simp [hs])
        rw [if_pos hs, ih hcs t, hfilter]
      · have hfilter : (s :: t :: ts).filter (fun u => !sel.selects u.text) =
            s :: (t :: ts).filter fun u => !sel.selects u.text :=
          List.filter_cons_of_pos (by simp [hs])
        rw [if_neg hs, List.map_cons, ih hlead t, hfilter, Fragment.body_pad hcs,
          Fragment.body_of_lead_nil (Fragment.lead_body s)]
        rfl

end Refit

/-! ### One list of names after the other -/

section Compose

variable {xs ys : List (List Char)} {shorthand : Bool}

theorem pruneFrom_refit {cs : List Char} (hcs : ∀ c ∈ cs, isBlank c = true) (s : Fragment)
    (ss : List Fragment) {x : Fragment} {rest : List Fragment}
    (h : (Selection.mk xs shorthand).refit cs s ss = x :: rest) :
    x.lead = cs ∧ (Selection.mk ys shorthand).pruneFrom x rest =
      (Selection.mk (xs ++ ys) shorthand).pruneFrom s ss := by
  have hboth := selects_append_names xs ys shorthand s.text
  induction ss generalizing s cs x rest with
  | nil =>
      obtain ⟨rfl, rfl⟩ := List.cons.inj h
      by_cases hs : (Selection.mk xs shorthand).selects s.text = true
      · rw [if_pos hs, Fragment.lead_pad hcs]
        refine ⟨by simp [Fragment.lead], ?_⟩
        rw [pruneFrom, pruneFrom, hboth, hs, Bool.true_or, if_pos rfl, Fragment.text_pad,
          Fragment.text_nil, selects_append_blanks _ hcs, selects_nil, Fragment.body_pad hcs]
        rfl
      · rw [if_neg hs, Fragment.lead_pad hcs]
        refine ⟨by simp, ?_⟩
        rw [pruneFrom, pruneFrom, hboth, Bool.eq_false_iff.mpr hs, Bool.false_or,
          Fragment.text_pad, selects_append_blanks _ hcs, selects_body, Fragment.body_pad hcs,
          Fragment.body_of_lead_nil (Fragment.lead_body s)]
  | cons t ts ih =>
      have hlead : ∀ c ∈ t.lead, isBlank c = true := fun _ => Fragment.isBlank_of_mem_lead
      have hbothNext := selects_append_names xs ys shorthand t.text
      rw [refit] at h
      by_cases hs : (Selection.mk xs shorthand).selects s.text = true
      · rw [if_pos hs] at h
        obtain ⟨hx, hrest⟩ := ih hcs t h hbothNext
        refine ⟨hx, hrest.trans ?_⟩
        rw [pruneFrom, hboth, hs, Bool.true_or, if_pos rfl]
      · rw [if_neg hs] at h
        obtain ⟨rfl, rfl⟩ := List.cons.inj h
        refine ⟨by simp [Fragment.lead_pad hcs], ?_⟩
        cases hnext : (Selection.mk xs shorthand).refit t.lead t ts with
        | nil => exact absurd hnext (refit_ne_nil _ _ _ _)
        | cons y rest =>
            obtain ⟨hy, hrest⟩ := ih hlead t hnext hbothNext
            rw [pruneFrom, pruneFrom, hboth, Bool.eq_false_iff.mpr hs, Bool.false_or,
              Fragment.text_pad, selects_append_blanks _ hcs, selects_body, Fragment.body_pad hcs,
              Fragment.body_of_lead_nil (Fragment.lead_body s), hy, hrest]

/-- Filtering for some names and then for others is filtering for all of them. -/
theorem prune_prune (F : Fragment) :
    (Selection.mk ys shorthand).prune ((Selection.mk xs shorthand).prune F) =
      (Selection.mk (xs ++ ys) shorthand).prune F := by
  obtain ⟨hlead, hrest⟩ := pruneFrom_refit (fun _ => Fragment.isBlank_of_mem_lead) F.first F.others
    (pieces_prune F).symm
  rw [prune, hlead, hrest]
  rfl

end Compose

end Selection

end Pruner.Object
