import Pruner.Proofs.Assignment.Lookup
import Pruner.Proofs.Object.Deletion
import Pruner.Proofs.Scan.Surroundings

/-!
# Splicing out expressions

The search for expressions edits the text that it is searching and goes on in the middle of it. It never
looks at what it has passed: the next match begins behind that, and a look back from a slash stops at the
brace of the match. So the search gives what one pass over the original text gives, and every stretch
that goes is an assignment in the original text.
-/

namespace Pruner.Assignment

open Object Scan Text

/-! ### Sites -/

/-- Where an assignment stands: its first blank, its name and its opening brace. -/
structure Site where
  start : Nat
  nameAt : Nat
  brace : Nat
  deriving DecidableEq, Repr

namespace Site

/-- At these places the text has blanks, the name, an equals sign and a brace, with blanks allowed around
the sign. -/
def In (name text : List Char) (site : Site) : Prop :=
  ∃ lead gap gap' behind,
    text.drop site.start = lead ++ (name ++ (gap ++ '=' :: (gap' ++ '{' :: behind))) ∧
      lead ≠ [] ∧ (∀ c ∈ lead, isBlank c = true) ∧ (∀ c ∈ gap, isBlank c = true) ∧
        (∀ c ∈ gap', isBlank c = true) ∧ site.nameAt = site.start + lead.length ∧
          site.brace = site.nameAt + (name.length + gap.length + 1 + gap'.length)

/-- The site that begins first and, of those, the one with the most blanks. -/
structure First (name text : List Char) (site : Site) : Prop where
  present : site.In name text
  leftmost : ∀ other : Site, other.In name text → site.start ≤ other.start
  longest : ∀ other : Site, other.In name text → other.start = site.start →
    other.nameAt ≤ site.nameAt

section Sites

variable {name text : List Char} {site other : Site}

/-- The matcher reads the name at a site up to its brace. -/
theorem In.bodyLength?_eq (h : site.In name text) :
    ∃ lead rest, text.drop site.start = lead ++ rest ∧ lead ≠ [] ∧
      (∀ c ∈ lead, isBlank c = true) ∧ site.nameAt = site.start + lead.length ∧
        site.nameAt ≤ site.brace ∧
          bodyLength? openBrace name rest = some (site.brace + 1 - site.nameAt) := by
  obtain ⟨lead, gap, gap', behind, hdrop, hne, hlead, hgap, hgap', hname, hbrace⟩ := h
  refine ⟨lead, _, hdrop, hne, hlead, hname, by omega, ?_⟩
  rw [bodyLength?_append name hgap hgap' (by rfl), openBrace, Option.map_some]
  congr 1
  omega

theorem In.isSome_matchAt? (h : site.In name text) :
    (matchAt? openBrace name (text.drop site.start)).isSome := by
  obtain ⟨lead, rest, hdrop, hne, hlead, -, -, hbody⟩ := h.bodyLength?_eq
  rw [hdrop]
  exact isSome_matchAt?_append hne hlead (Option.isSome_of_eq_some hbody)

/-- The blanks and the name decide where the brace is. -/
theorem In.brace_eq (h : site.In name text) (hother : other.In name text)
    (hstart : other.start = site.start) (hname : other.nameAt = site.nameAt) :
    other.brace = site.brace := by
  obtain ⟨lead, rest, hdrop, -, -, hlead, hle, hbody⟩ := h.bodyLength?_eq
  obtain ⟨lead', rest', hdrop', -, -, hlead', hle', hbody'⟩ := hother.bodyLength?_eq
  rw [hstart, hdrop] at hdrop'
  obtain ⟨-, rfl⟩ := List.append_inj hdrop' (by omega)
  have hlength := Option.some.inj (hbody.symm.trans hbody')
  omega

theorem First.eq (h : site.First name text) (hother : other.First name text) : other = site := by
  have hstart : other.start = site.start :=
    Nat.le_antisymm (hother.leftmost site h.present) (h.leftmost other hother.present)
  have hname : other.nameAt = site.nameAt :=
    Nat.le_antisymm (h.longest other hother.present hstart)
      (hother.longest site h.present hstart.symm)
  have hbrace := h.present.brace_eq hother.present hstart hname
  cases site
  cases other
  simp_all

theorem in_of_matchAt? {start : Nat} {m : Match}
    (h : matchAt? openBrace name (text.drop start) = some m) :
    In name text ⟨start, start + m.lead, start + m.lead + m.body - 1⟩ := by
  obtain ⟨lead, rest, hdrop, hlead, hlength, hbody⟩ := matchAt?_eq_some h
  obtain ⟨gap, gap', w, n, rfl, hgap, hgap', hn, hk⟩ := bodyLength?_eq_some hbody
  obtain ⟨rfl, w', rfl⟩ := openBrace_eq_some hn
  have hne : lead ≠ [] := by
    rw [← List.length_pos_iff, hlength]
    exact m.lead_pos
  refine ⟨lead, gap, gap', w', hdrop, hne, hlead, hgap, hgap', ?_, ?_⟩
  · rw [hlength]
  · dsimp only
    omega

/-- A site further down a text is one in the whole text. -/
theorem In.shift {index : Nat} (h : site.In name (text.drop index)) :
    In name text ⟨index + site.start, index + site.nameAt, index + site.brace⟩ := by
  obtain ⟨lead, gap, gap', behind, hdrop, hne, hlead, hgap, hgap', hname, hbrace⟩ := h
  rw [List.drop_drop] at hdrop
  refine ⟨lead, gap, gap', behind, hdrop, hne, hlead, hgap, hgap', ?_, ?_⟩
  · dsimp only
    omega
  · dsimp only
    omega

end Sites

end Site

/-- The first site in a text. -/
def site? (name text : List Char) : Option Site :=
  (find? openBrace name text).map fun (ahead, m) =>
    ⟨ahead, ahead + m.lead, ahead + m.lead + m.body - 1⟩

section Search

variable {name text : List Char} {ahead : Nat} {m : Match}

theorem first_of_find? (h : find? openBrace name text = some (ahead, m)) :
    Site.First name text ⟨ahead, ahead + m.lead, ahead + m.lead + m.body - 1⟩ := by
  obtain ⟨hmatch, hbefore⟩ := find?_eq_some h
  refine ⟨Site.in_of_matchAt? hmatch, fun other hother => ?_, fun other hother hstart => ?_⟩
  · apply Nat.le_of_not_lt
    intro hlt
    have hsome := hother.isSome_matchAt?
    rw [hbefore other.start hlt] at hsome
    cases hsome
  · obtain ⟨lead, rest, hdrop, -, hlead, hname, -, hbody⟩ := hother.bodyLength?_eq
    dsimp only at hstart ⊢
    rw [← hstart, hdrop] at hmatch
    have hle := length_lead_le hlead (Option.isSome_of_eq_some hbody) hmatch
    omega

theorem site?_eq_none_iff (name text : List Char) :
    site? name text = none ↔ ∀ site : Site, ¬ site.In name text := by
  rw [site?, Option.map_eq_none_iff]
  constructor
  · intro h site hsite
    have hsome := hsite.isSome_matchAt?
    rw [(find?_eq_none_iff text).mp h] at hsome
    cases hsome
  · intro h
    cases hfind : find? openBrace name text with
    | none => rfl
    | some found => exact absurd (first_of_find? hfind).present (h _)

theorem site?_eq_some_iff (name text : List Char) (site : Site) :
    site? name text = some site ↔ site.First name text := by
  constructor
  · intro h
    obtain ⟨found, hfind, rfl⟩ := Option.map_eq_some_iff.mp h
    exact first_of_find? hfind
  · intro h
    cases hsite : site? name text with
    | none => exact absurd h.present ((site?_eq_none_iff name text).mp hsite site)
    | some other =>
        obtain ⟨⟨ahead, m⟩, hfind, rfl⟩ := Option.map_eq_some_iff.mp hsite
        exact congrArg some (h.eq (first_of_find? hfind))

theorem site?_ne_nil {site : Site} (h : site? name text = some site) : text ≠ [] := by
  obtain ⟨found, hfind, -⟩ := Option.map_eq_some_iff.mp h
  exact find?_ne_nil hfind

theorem closing?_brace (h : find? openBrace name text = some (ahead, m)) :
    closing? text (ahead + m.lead + m.body - 1) =
      (innerLength? (text.drop (ahead + m.lead + m.body))).map (ahead + m.lead + m.body + ·) := by
  have hclose : closing? text (0 + ahead + m.lead + m.body - 1) = _ := closing?_of_find h
  rwa [Nat.zero_add] at hclose

end Search

/-! ### One pass -/

/-- Erases the balanced expressions that the name is assigned. At the first site, a brace that does not
close is passed over, and behind either brace the pass begins anew. -/
def onePass (name text : List Char) : List Char :=
  match _h : site? name text with
  | none => text
  | some site =>
    match closing? text site.brace with
    | none => text.take (site.brace + 1) ++ onePass name (text.drop (site.brace + 1))
    | some close => text.take site.nameAt ++ onePass name (text.drop (close + 1))
termination_by text.length
decreasing_by
  all_goals
    have := List.length_pos_iff.mpr (site?_ne_nil _h)
    rw [List.length_drop]
    omega

section Steps

variable {name text : List Char}

theorem onePass_none (h : site? name text = none) : onePass name text = text := by
  rw [onePass]
  split <;> simp_all

theorem onePass_some {site : Site} (h : site? name text = some site) :
    onePass name text =
      match closing? text site.brace with
      | none => text.take (site.brace + 1) ++ onePass name (text.drop (site.brace + 1))
      | some close => text.take site.nameAt ++ onePass name (text.drop (close + 1)) := by
  rw [onePass]
  split <;> simp_all

variable {ahead : Nat} {m : Match} (h : find? openBrace name text = some (ahead, m))

include h

theorem site?_of_find? :
    site? name text = some ⟨ahead, ahead + m.lead, ahead + m.lead + m.body - 1⟩ := by
  rw [site?, h]
  rfl

theorem onePass_unbalanced (hinner : innerLength? (text.drop (ahead + m.lead + m.body)) = none) :
    onePass name text =
      text.take (ahead + m.lead + m.body) ++
        onePass name (text.drop (ahead + m.lead + m.body)) := by
  have hpos := (match_bounds (find?_eq_some h).1).1
  have hbrace : ahead + m.lead + m.body - 1 + 1 = ahead + m.lead + m.body := by omega
  rw [onePass_some (site?_of_find? h), closing?_brace h, hinner]
  simp only [Option.map_none, hbrace]

theorem onePass_balanced {inner : Nat}
    (hinner : innerLength? (text.drop (ahead + m.lead + m.body)) = some inner) :
    onePass name text =
      text.take (ahead + m.lead) ++
        onePass name (text.drop (ahead + m.lead + m.body + inner + 1)) := by
  rw [onePass_some (site?_of_find? h), closing?_brace h, hinner]
  rfl

end Steps

/-- Behind `index` the search leaves what one pass leaves. -/
theorem eraseExpressionsFrom_onePass (name code : List Char) (index : Nat) :
    eraseExpressionsFrom name code index = code.take index ++ onePass name (code.drop index) := by
  fun_induction eraseExpressionsFrom name code index with
  | case1 code index hnone =>
      have hsite : site? name (code.drop index) = none := by
        rw [site?, hnone]
        rfl
      rw [onePass_none hsite, List.take_append_drop]
  | case2 code index ahead m hfind next hinner ih =>
      have hnext : next + m.body = index + (ahead + m.lead + m.body) := by
        simp only [next]
        omega
      rw [hnext, ← List.drop_drop] at hinner
      rw [ih, hnext, onePass_unbalanced hfind hinner, List.take_add, List.drop_drop,
        List.append_assoc]
  | case3 code index ahead m hfind next inner hinner ih =>
      have hnext : next = index + (ahead + m.lead) := by
        simp only [next]
        omega
      have hbrace : next + m.body = index + (ahead + m.lead + m.body) := by
        omega
      have hbehind : next + m.body + inner + 1 = index + (ahead + m.lead + m.body + inner + 1) := by
        omega
      have hlength : (code.take next).length = next := by
        obtain ⟨-, hlead, -⟩ := match_bounds (find?_eq_some hfind).1
        rw [List.length_drop, List.length_drop] at hlead
        rw [List.length_take]
        omega
      rw [hbrace, ← List.drop_drop] at hinner
      -- what has been passed is the same in the edited text
      rw [ih, List.take_left' hlength, List.drop_left' hlength, hbehind,
        onePass_balanced hfind hinner, hnext, List.take_add, List.drop_drop, List.append_assoc]

/-! ### What goes -/

/-- The stretch from the name at a site to the brace that closes its expression. -/
def Erased (name text : List Char) (cut : Cut) : Prop :=
  ∃ (site : Site) (close : Nat), site.In name text ∧ closing? text site.brace = some close ∧
    cut = ⟨site.nameAt, close + 1⟩

theorem Site.In.nameAt_lt {name text : List Char} {site : Site} {close : Nat}
    (h : site.In name text) (hclose : closing? text site.brace = some close) :
    site.nameAt < close := by
  obtain ⟨_, _, -, -, -, -, hle, -⟩ := h.bodyLength?_eq
  obtain ⟨F, tail, -, -, rfl⟩ := closing?_eq_some_iff.mp hclose
  omega

theorem erased_shift {name text : List Char} {index : Nat} {site : Site} {close : Nat}
    (hsite : site.In name (text.drop index))
    (hclose : closing? (text.drop index) site.brace = some close) :
    Erased name text ⟨index + site.nameAt, index + (close + 1)⟩ := by
  refine ⟨_, index + close, hsite.shift, ?_, rfl⟩
  rw [closing?_drop, List.drop_drop] at hclose
  obtain ⟨n, hn, rfl⟩ := Option.map_eq_some_iff.mp hclose
  rw [closing?_drop, hn, Option.map_some, Nat.add_assoc]

/-- One pass deletes stretches, one behind the other, that are assignments in the whole text. -/
theorem exists_cuts (name : List Char) {code text : List Char} {index : Nat}
    (hdrop : code.drop index = text) :
    ∃ cuts : List Cut, cuts.Pairwise (fun a b => a.stop ≤ b.start) ∧
      (∀ cut ∈ cuts, index ≤ cut.start) ∧ (∀ cut ∈ cuts, Erased name code cut) ∧
        onePass name text = Cut.keep cuts index text := by
  fun_induction onePass name text generalizing index with
  | case1 text hsite =>
      exact ⟨[], .nil, by simp, by simp, (Cut.keep_no_cuts index text).symm⟩
  | case2 text site hsite hclose ih =>
      subst hdrop
      obtain ⟨cuts, hordered, hbounds, herased, hkeep⟩ := ih (List.drop_drop ..).symm
      -- nothing up to the brace goes
      have hfront : Cut.Outside cuts index
          (index + ((code.drop index).take (site.brace + 1)).length) := by
        have htake := List.length_take_le (site.brace + 1) (code.drop index)
        intro cut hcut
        have hle := hbounds cut hcut
        exact .inr (by omega)
      refine ⟨cuts, hordered, fun cut hcut => ?_, herased, ?_⟩
      · have hle := hbounds cut hcut
        omega
      · rw [hkeep, Cut.keep_take_drop (site.brace + 1) (code.drop index), Cut.keep_outside hfront]
  | case3 text site hsite close hclose ih =>
      subst hdrop
      obtain ⟨cuts, hordered, hbounds, herased, hkeep⟩ := ih (List.drop_drop ..).symm
      have hsite := ((site?_eq_some_iff name _ site).mp hsite).present
      have hlt := hsite.nameAt_lt hclose
      refine ⟨⟨index + site.nameAt, index + (close + 1)⟩ :: cuts,
        List.pairwise_cons.mpr ⟨hbounds, hordered⟩, ?_, ?_, ?_⟩
      · intro cut hcut
        rcases List.mem_cons.mp hcut with rfl | hcut
        · exact Nat.le_add_right index site.nameAt
        · have hle := hbounds cut hcut
          omega
      · intro cut hcut
        rcases List.mem_cons.mp hcut with rfl | hcut
        · exact erased_shift hsite hclose
        · exact herased cut hcut
      · rw [Cut.keep_first (Nat.le_add_right index site.nameAt) (by dsimp only; omega) hbounds, hkeep]
        simp only [Nat.add_sub_cancel_left]

/-- The search in the text that it edits gives what one pass over the original text gives: at the first
site, with as many blanks as possible, everything from the name to the closing brace goes, and the pass
begins anew behind it. Each stretch that goes is an assignment of a balanced expression in the original
text, right behind a blank. -/
theorem eraseExpressions_eq_onePass (name code : List Char) :
    eraseExpressionsFromAt name code 0 = .ok (onePass name code) ∧
      eraseExpressions name code = onePass name code ∧
      (∀ text, site? name text = none ↔ ∀ site : Site, ¬ site.In name text) ∧
      (∀ text (site : Site), site? name text = some site ↔ site.First name text) ∧
      ∃ cuts : List Cut, cuts.Pairwise (fun a b => a.stop ≤ b.start) ∧
        (∀ cut ∈ cuts, Erased name code cut) ∧ onePass name code = Cut.keep cuts 0 code := by
  have hsearch : eraseExpressionsFrom name code 0 = onePass name code :=
    eraseExpressionsFrom_onePass name code 0
  obtain ⟨cuts, hordered, -, herased, hkeep⟩ := exists_cuts name code.drop_zero
  refine ⟨?_, hsearch, site?_eq_none_iff name, site?_eq_some_iff name, cuts, hordered, herased, hkeep⟩
  rw [eraseExpressionsFromAt_eq, hsearch]

end Pruner.Assignment
