import Mathlib.Data.List.Infix
import Pruner.Proofs.Source.Leftovers

/-!
# Names that are not mentioned

Whatever the removal finds of a name, the name itself is written there, character by character: in an
assignment, and also as a key, where it may stand in quotes. So a content in which a name does not occur
keeps everything as far as this name is concerned. What is left to do is tidying, and that only takes
commas and blanks.
-/

namespace Pruner.Object

open Text

theorem infix_of_explicitKey? {property key : List Char} (h : explicitKey? property = some key) :
    key <:+: property := by
  cases property with
  | nil => simp [explicitKey?] at h
  | cons c cs =>
      rw [explicitKey?] at h
      split_ifs at h with hquote hstart hcolon
      · cases hlength : quotedLength? c cs with
        | none => simp [hlength] at h
        | some n =>
            simp only [hlength] at h
            split_ifs at h
            obtain rfl := Option.some.inj h
            exact List.infix_cons (List.take_prefix _ cs).isInfix
      · obtain rfl := Option.some.inj h
        exact (List.prefix_cons_inj c).mpr (List.takeWhile_prefix _) |>.isInfix

theorem infix_of_shorthandKey? {property key : List Char} (h : shorthandKey? property = some key) :
    key <:+: property := by
  cases property with
  | nil => simp [shorthandKey?] at h
  | cons c cs =>
      rw [shorthandKey?] at h
      split_ifs at h
      obtain rfl := Option.some.inj h
      exact (List.prefix_cons_inj c).mpr (List.takeWhile_prefix _) |>.isInfix

/-- A key is written in its property as it is. -/
theorem infix_of_key? {shorthand : Bool} {property key : List Char}
    (h : key? shorthand property = some key) : key <:+: property := by
  have hbody : key <:+: property.drop (blanks property) := by
    rw [key?, leadingKey?, Option.or_eq_some_iff] at h
    rcases h with h | ⟨-, h⟩
    · exact infix_of_explicitKey? h
    · split_ifs at h
      exact infix_of_shorthandKey? h
  exact hbody.trans (List.drop_suffix _ property).isInfix

end Pruner.Object

namespace Pruner.Source

open Assignment Comma Object Scan Text

theorem infix_of_assignedAt {name text : List Char} {i : Nat} (h : AssignedAt name text i) :
    name <:+: text := by
  obtain ⟨front, stem, htake, lead, gap, gap', rfl, -⟩ := h
  have hstem : name <:+: text.take i := by
    rw [htake, ← List.append_assoc]
    exact List.infix_append' _ name _
  exact hstem.trans (List.take_prefix i text).isInfix

theorem infix_slice (text : List Char) (part : Segment) : part.slice text <:+: text :=
  (List.take_prefix _ _).isInfix.trans (List.drop_suffix _ text).isInfix

theorem gone_of_not_infix {name code : List Char} (h : ¬ name <:+: code) : Gone name code := by
  refine ⟨fun i hi => ?_, fun i hi => ?_, fun s _ part _ hkey => ?_⟩
  · exact absurd (infix_of_assignedAt hi) h
  · exact absurd (infix_of_assignedAt hi) h
  · exact h ((infix_of_key? hkey).trans (infix_slice code part))

theorem removedKeys_eq_nil {names : List (List Char)} {code : List Char}
    (h : ∀ name ∈ names, Gone name code) : removedKeys names code = [] := by
  induction names with
  | nil => rfl
  | cons name names ih =>
      obtain ⟨hname, hnames⟩ := List.forall_mem_cons.mp h
      have hself := removeName_eq_self hname
      obtain ⟨hquoted, hexpr, hkeys⟩ := (removeName_eq_self_iff code name).mp hself
      have hcount : (removeName code name).count = 0 := by
        rw [removeName, hquoted, hexpr]
        exact (selection name).count_eq_zero_of_text_eq hkeys
      rw [removedKeys, if_pos hcount, hself, ih hnames]

/-! ### What tidying takes -/

/-- A blank or a comma. -/
def isFiller (c : Char) : Bool :=
  isBlank c || c == ','

theorem filter_collapse {first last image : Char}
    (himage : image = first ∧ last = ',' ∨ image = last ∧ first = ',') (text : List Char) :
    (collapse first last image text).filter (fun c => !isFiller c) =
      text.filter fun c => !isFiller c := by
  fun_induction collapse first last image text with
  | case1 => rfl
  | case2 c cs hmatch ih =>
      obtain ⟨rfl, hlast⟩ := hmatch
      obtain ⟨gap, hgap, -, hcs⟩ := exists_blanks cs
      obtain ⟨hlt, hget⟩ := List.getElem?_eq_some_iff.mp hlast
      have hgone : gap.filter (fun c => !isFiller c) = [] := by
        apply List.filter_eq_nil_iff.mpr
        intro d hd
        simp [isFiller, hgap d hd]
      have hcomma : isFiller ',' = true := by decide
      rw [List.drop_eq_getElem_cons hlt, hget] at hcs
      conv => rhs; rw [hcs]
      rw [List.filter_cons, ih, List.filter_cons, List.filter_append, hgone, List.nil_append,
        List.filter_cons]
      rcases himage with ⟨rfl, rfl⟩ | ⟨rfl, rfl⟩ <;> simp [hcomma]
  | case3 c cs _ ih => rw [List.filter_cons, List.filter_cons, ih]

theorem filter_tidy (code : List Char) :
    (tidy code).filter (fun c => !isFiller c) = code.filter fun c => !isFiller c := by
  rw [tidy, filter_collapse (.inr ⟨rfl, rfl⟩), filter_collapse (.inl ⟨rfl, rfl⟩),
    filter_collapse (.inl ⟨rfl, rfl⟩)]

/-- A content in which none of the names occurs is only tidied, and no property of it counts as removed;
the empty name occurs in every content. Tidying deletes blanks and commas and leaves all else, in order. -/
theorem removeNames_unmentioned :
    (∀ (names : List (List Char)) (content : List Char), (∀ name ∈ names, ¬ name <:+: content) →
      removeNames names content = tidy content ∧ removedKeys names content = []) ∧
    ∀ code : List Char, (tidy code).Sublist code ∧
      (tidy code).filter (fun c => !isFiller c) = code.filter fun c => !isFiller c := by
  refine ⟨fun names content h => ?_, fun code => ⟨tidy_sublist code, filter_tidy code⟩⟩
  have hgone : ∀ name ∈ names, Gone name content :=
    fun name hname => gone_of_not_infix (h name hname)
  have hround : round names content = content :=
    (round_eq_self_iff names content).mpr fun name hname => removeName_eq_self (hgone name hname)
  exact ⟨by rw [removeNames_eq, hround], removedKeys_eq_nil hgone⟩

/-- Read as patterns, the first two names would be found in this content. -/
theorem removeNames_unmentioned_patterns :
    removeNames ["a.b".toList, "xy*".toList, "'k'".toList]
        "<p axb='1' x=\x7b\x7b k: 2, , 3, \x7d\x7d>".toList =
      "<p axb='1' x=\x7b\x7b k: 2, 3\x7d\x7d>".toList := by
  have habsent : ∀ name ∈ ["a.b".toList, "xy*".toList, "'k'".toList],
      ¬ name <:+: "<p axb='1' x=\x7b\x7b k: 2, , 3, \x7d\x7d>".toList := by
    decide +kernel
  rw [(removeNames_unmentioned.1 _ _ habsent).1]
  decide +kernel

end Pruner.Source
