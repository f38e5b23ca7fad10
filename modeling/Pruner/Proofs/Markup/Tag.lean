import Pruner.Markup.Token

/-!
# Reading one tag

The name of an attribute runs up to the equals sign behind it. A quoted value runs up to its quote, and
a plain value up to space or to the end of the tag, so a slash in front of that end belongs to the value.
-/

namespace Pruner.Markup

/-! ### Line ends -/

theorem unifyLineEnds_cons {c : Char} (hc : c ≠ '\r') (cs : List Char) :
    unifyLineEnds (c :: cs) = c :: unifyLineEnds cs := by
  rw [unifyLineEnds]
  · intro _ h
    exact absurd h hc
  · exact hc

theorem unifyLineEnds_of_not_mem {s : List Char} (hs : '\r' ∉ s) : unifyLineEnds s = s := by
  induction s with
  | nil => rfl
  | cons c cs ih =>
      obtain ⟨hc, hcs⟩ := not_or.mp (mt List.mem_cons.mpr hs)
      rw [unifyLineEnds_cons (Ne.symm hc), ih hcs]

theorem unifyLineEnds_append {s : List Char} (hs : '\r' ∉ s) (t : List Char) :
    unifyLineEnds (s ++ t) = s ++ unifyLineEnds t := by
  induction s with
  | nil => rfl
  | cons c cs ih =>
      obtain ⟨hc, hcs⟩ := not_or.mp (mt List.mem_cons.mpr hs)
      rw [List.cons_append, unifyLineEnds_cons (Ne.symm hc), ih hcs, List.cons_append]

/-- A line end is not split by what follows it, unless that is the line feed of a pair. -/
theorem unifyLineEnds_append_cons (s : List Char) {c : Char} (hc : c ≠ '\n') (t : List Char) :
    unifyLineEnds (s ++ c :: t) = unifyLineEnds s ++ unifyLineEnds (c :: t) := by
  fun_induction unifyLineEnds s with
  | case1 => rfl
  | case2 cs ih => rw [List.cons_append, List.cons_append, unifyLineEnds, ih, List.cons_append]
  | case3 cs hcs ih =>
      rw [List.cons_append, unifyLineEnds, ih, List.cons_append]
      intro rest hrest
      cases cs with
      | nil => exact hc (List.cons.inj hrest).1
      | cons d ds =>
          obtain ⟨rfl, -⟩ := List.cons.inj hrest
          exact hcs ds rfl
  | case4 d cs hpair hreturn ih =>
      rw [List.cons_append, unifyLineEnds_cons hreturn, ih, List.cons_append]

/-- Apart from line feeds, no character comes in when line ends are unified. -/
theorem mem_of_mem_unifyLineEnds {s : List Char} {c : Char} (h : c ∈ unifyLineEnds s) :
    c = '\n' ∨ c ∈ s := by
  fun_induction unifyLineEnds s with
  | case1 => simp at h
  | case2 cs ih =>
      rcases List.mem_cons.mp h with rfl | h
      · exact .inl rfl
      · exact (ih h).imp_right fun hmem => by simp [hmem]
  | case3 cs hcs ih =>
      rcases List.mem_cons.mp h with rfl | h
      · exact .inl rfl
      · exact (ih h).imp_right fun hmem => by simp [hmem]
  | case4 d cs hpair hreturn ih =>
      rcases List.mem_cons.mp h with rfl | h
      · exact .inr (by simp)
      · exact (ih h).imp_right fun hmem => by simp [hmem]

theorem withoutNul_of_not_mem {s : List Char} (hs : '\x00' ∉ s) : withoutNul s = s := by
  have hkept : ∀ c ∈ s, (if c = '\x00' then '\ufffd' else c) = id c := by
    intro c hc
    rw [if_neg, id_eq]
    rintro rfl
    exact hs hc
  rw [withoutNul, List.map_congr_left hkept, List.map_id]

/-- A value can be stored when each of its characters can be, or else is the null character, which
another one stands in for. -/
theorem all_isStorable_value (s : List Char) :
    (withoutNul (unifyLineEnds s)).all isStorable =
      s.all fun c => c == '\x00' || isStorable c := by
  have hchar : ∀ c : Char, isStorable (if c = '\x00' then '\ufffd' else c) =
      (c == '\x00' || isStorable c) := by
    intro c
    by_cases hc : c = '\x00'
    · subst hc
      decide
    · rw [if_neg hc, beq_eq_false_iff_ne.mpr hc, Bool.false_or]
  have hfeed : isStorable (if '\n' = '\x00' then '\ufffd' else '\n') = true := by decide
  have hreturn : ('\r' == '\x00' || isStorable '\r') = true := by decide
  have hline : ('\n' == '\x00' || isStorable '\n') = true := by decide
  rw [withoutNul, List.all_map]
  fun_induction unifyLineEnds s with
  | case1 => rfl
  | case2 cs ih =>
      simp only [List.all_cons, ih, Function.comp_apply, hfeed, hreturn, hline, Bool.true_and]
  | case3 cs hcs ih =>
      simp only [List.all_cons, ih, Function.comp_apply, hfeed, hreturn, Bool.true_and]
  | case4 d cs hpair hne ih => simp only [List.all_cons, ih, Function.comp_apply, hchar]

/-! ### Names and values -/

theorem takeWhile_stop {p : Char → Bool} {s : List Char} {stop : Char}
    (hs : ∀ c ∈ s, p c = false) (hstop : p stop = true) (rest : List Char) :
    (s ++ stop :: rest).takeWhile (!p ·) = s := by
  rw [List.takeWhile_append_of_pos (fun c hc => by simp [hs c hc]),
    List.takeWhile_cons_of_neg (by simp [hstop]), List.append_nil]

theorem dropWhile_stop {p : Char → Bool} {s : List Char} {stop : Char}
    (hs : ∀ c ∈ s, p c = false) (hstop : p stop = true) (rest : List Char) :
    (s ++ stop :: rest).dropWhile (!p ·) = stop :: rest := by
  rw [List.dropWhile_append_of_pos (fun c hc => by simp [hs c hc]),
    List.dropWhile_cons_of_neg (by simp [hstop])]

theorem upTo?_append {quote : Char} {s : List Char} (hs : quote ∉ s) (t : List Char) :
    upTo? quote (s ++ quote :: t) = some (s, t) := by
  induction s with
  | nil => rw [List.nil_append, upTo?, if_pos rfl]
  | cons c cs ih =>
      obtain ⟨hc, hcs⟩ := not_or.mp (mt List.mem_cons.mpr hs)
      rw [List.cons_append, upTo?, if_neg (Ne.symm hc), ih hcs]
      rfl

theorem assigned?_quoted {value : List Char} (h : '"' ∉ value) (rest : List Char) :
    assigned? ('=' :: '"' :: (value ++ '"' :: rest)) = some (value, rest) := by
  rw [assigned?, List.dropWhile_cons_of_neg (by decide)]
  simp only
  rw [value?, List.dropWhile_cons_of_neg (by decide)]
  simp only [true_or, if_true]
  exact upTo?_append h rest

/-- A plain value that no space ends goes on up to the end of the tag. -/
theorem assigned?_plain {value : List Char} (hne : value ≠ []) {stop : Char} {rest : List Char}
    (hvalue : ∀ c ∈ value, (isSpace c || c == '>') = false)
    (hquote : ∀ c ∈ value.head?, c ≠ '"' ∧ c ≠ '\'') (hstop : (isSpace stop || stop == '>') = true) :
    assigned? ('=' :: (value ++ stop :: rest)) = some (value, stop :: rest) := by
  obtain ⟨c, cs, rfl⟩ := List.exists_cons_of_ne_nil hne
  have hc := hvalue c (by simp)
  obtain ⟨hspace, hangle⟩ := Bool.or_eq_false_iff.mp hc
  obtain ⟨hdouble, hsingle⟩ := hquote c rfl
  rw [assigned?, List.dropWhile_cons_of_neg (by decide)]
  simp only
  rw [List.cons_append, value?, List.dropWhile_cons_of_neg (by simp [hspace])]
  simp only [hdouble, hsingle, or_self, if_false, beq_eq_false_iff_ne.mp hangle]
  rw [← List.cons_append, takeWhile_stop (p := fun d => isSpace d || d == '>') hvalue hstop,
    dropWhile_stop (p := fun d => isSpace d || d == '>') hvalue hstop]

/-- A value without an ampersand holds no reference. -/
theorem decodeReferences_of_not_mem {text : List Char} (h : '&' ∉ text) :
    decodeReferences text = text := by
  induction text with
  | nil => rw [decodeReferences]
  | cons c cs ih =>
      obtain ⟨hc, hcs⟩ := not_or.mp (mt List.mem_cons.mpr h)
      rw [decodeReferences, if_neg (Ne.symm hc), ih hcs]

/-! ### Tags -/

theorem tagRest?_space (text : List Char) : tagRest? (' ' :: text) = tagRest? text := by
  rw [tagRest?, if_pos (by decide)]

theorem tagRest?_angle (text : List Char) : tagRest? ('>' :: text) = some ([], false, text) := by
  rw [tagRest?, if_neg (by decide), if_pos rfl]

theorem tagRest?_slash_angle (text : List Char) :
    tagRest? ('/' :: '>' :: text) = some ([], true, text) := by
  rw [tagRest?, if_neg (by decide), if_neg (by decide), if_pos rfl, List.head?_cons, if_pos rfl,
    List.tail_cons]

theorem tagRest?_attribute {c : Char} {name written value rest : List Char}
    (hc : endsTagName c = false) (hname : ∀ d ∈ name, endsAttributeName d = false)
    (hvalue : assigned? ('=' :: written) = some (value, rest)) :
    tagRest? (c :: (name ++ '=' :: written)) =
      (tagRest? rest).map fun (attributes, closing, left) =>
        (⟨readName (c :: name), readValue value⟩ :: attributes, closing, left) := by
  obtain ⟨hopen, hangle⟩ := Bool.or_eq_false_iff.mp hc
  obtain ⟨hspace, hslash⟩ := Bool.or_eq_false_iff.mp hopen
  have hequals : endsAttributeName '=' = true := by decide
  have htake := takeWhile_stop hname hequals written
  have hdrop := dropWhile_stop hname hequals written
  rw [tagRest?, if_neg (by simp [hspace]), if_neg (beq_eq_false_iff_ne.mp hangle),
    if_neg (beq_eq_false_iff_ne.mp hslash), htake]
  split
  · rename_i hnone
    rw [hdrop, hvalue] at hnone
    cases hnone
  · rename_i v left hsome
    rw [hdrop, hvalue] at hsome
    cases hsome
    rfl

theorem tag?_space {name : List Char} (hname : ∀ c ∈ name, endsTagName c = false)
    (text : List Char) :
    tag? (name ++ ' ' :: text) =
      (tagRest? text).map fun (attributes, closing, rest) =>
        (⟨readName name, Attribute.firsts attributes, closing⟩, rest) := by
  rw [tag?, takeWhile_stop hname (by decide), dropWhile_stop hname (by decide), tagRest?_space]

/-- A tag with one attribute. -/
theorem tag?_attribute {tag name written value rest left : List Char} {closing : Bool}
    (htag : ∀ c ∈ tag, endsTagName c = false) (hne : name ≠ [])
    (hname : ∀ c ∈ name, endsAttributeName c = false)
    (hvalue : assigned? ('=' :: written) = some (value, rest))
    (hrest : tagRest? rest = some ([], closing, left)) :
    tag? (tag ++ ' ' :: (name ++ '=' :: written)) =
      some (⟨readName tag, [⟨readName name, readValue value⟩], closing⟩, left) := by
  obtain ⟨c, cs, rfl⟩ := List.exists_cons_of_ne_nil hne
  obtain ⟨hc, hcs⟩ := List.forall_mem_cons.mp hname
  rw [tag?_space htag, List.cons_append,
    tagRest?_attribute (Bool.or_eq_false_iff.mp hc).1 hcs hvalue, hrest]
  rfl

theorem tag?_angle {name : List Char} (hname : ∀ c ∈ name, endsTagName c = false)
    (text : List Char) : tag? (name ++ '>' :: text) = some (⟨readName name, [], false⟩, text) := by
  rw [tag?, takeWhile_stop hname (by decide), dropWhile_stop hname (by decide), tagRest?_angle]
  rfl

end Pruner.Markup
