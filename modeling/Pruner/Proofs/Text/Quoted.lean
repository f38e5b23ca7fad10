import Pruner.Assignment.Pattern
import Pruner.Proofs.Object.Keys
import Pruner.Scan.Position
import Pruner.Scan.Segment

/-!
# Quoted values and strings

A quoted value is a quote, any number of items and the same quote again, where an item is a plain
character or a backslash with the character that it takes along. Keys and assignments read quoted values,
the scans read strings. Both go through the same items, so they end at the same quote, and they differ
only over a backslash at the end of a line, which a string may hold and a quoted value may not.
-/

namespace Pruner.Text

open Scan

/-- What can stand between two quotes: a character that is neither the quote nor a backslash, or a
backslash and a character that is no line break. -/
inductive Item (quote : Char) : List Char → Prop where
  | plain {c : Char} : c ≠ quote → c ≠ '\\' → Item quote [c]
  | escape {c : Char} : c ≠ '\n' → Item quote ['\\', c]

/-- A quoted value stands in the text from `start` up to `stop`. -/
def QuotedAt (text : List Char) (start stop : Nat) : Prop :=
  ∃ (quote : Char) (items : List (List Char)), isValueQuote quote = true ∧
    (∀ item ∈ items, Item quote item) ∧
    quote :: (items.flatten ++ [quote]) <+: text.drop start ∧
    stop = start + (items.flatten.length + 2)

/-- The characters that the backslashes of a text take along, when it is read from left to right. -/
def escaped : List Char → List Char
  | [] => []
  | '\\' :: [] => []
  | '\\' :: c :: cs => c :: escaped cs
  | _ :: cs => escaped cs

theorem escaped_cons {c : Char} (hc : c ≠ '\\') (cs : List Char) : escaped (c :: cs) = escaped cs := by
  rw [escaped]
  · exact fun h _ => hc h
  · exact fun _ _ h _ => hc h

theorem isValueQuote_ne_backslash {quote : Char} (h : isValueQuote quote = true) : quote ≠ '\\' := by
  rintro rfl
  cases h

section Length

variable {quote : Char} {text : List Char} {n : Nat}

theorem quotedLength?_eq_some_iff (hquote : quote ≠ '\\') :
    quotedLength? quote text = some n ↔
      stringLength? quote text = some n ∧ '\n' ∉ escaped (text.take n) := by
  fun_induction quotedLength? quote text generalizing n with
  | case1 | case2 => simp [stringLength?]
  | case3 cs =>
      constructor
      · intro h
        cases h
      · rintro ⟨hlength, hescaped⟩
        obtain ⟨m, -, rfl⟩ := Option.map_eq_some_iff.mp hlength
        exact absurd List.mem_cons_self hescaped
  | case4 c cs hc ih =>
      constructor
      · intro h
        obtain ⟨m, hm, rfl⟩ := Option.map_eq_some_iff.mp h
        obtain ⟨hlength, hescaped⟩ := ih.mp hm
        refine ⟨by simp [stringLength?, hlength], fun hmem => ?_⟩
        rcases List.mem_cons.mp hmem with hline | hmem
        · exact hc hline.symm
        · exact hescaped hmem
      · rintro ⟨hlength, hescaped⟩
        obtain ⟨m, hm, rfl⟩ := Option.map_eq_some_iff.mp hlength
        have hrest := ih.mpr ⟨hm, fun hmem => hescaped (List.mem_cons_of_mem c hmem)⟩
        exact Option.map_eq_some_iff.mpr ⟨m, hrest, rfl⟩
  | case5 cs =>
      rw [stringLength?_cons hquote, if_pos rfl]
      constructor
      · intro h
        obtain rfl := Option.some.inj h
        refine ⟨rfl, ?_⟩
        rw [List.take_succ_cons, escaped_cons hquote]
        exact List.not_mem_nil
      · exact And.left
  | case6 c cs hnil hcons hne ih =>
      have hc := ne_backslash hnil hcons
      rw [stringLength?_cons hc, if_neg hne]
      constructor
      · intro h
        obtain ⟨m, hm, rfl⟩ := Option.map_eq_some_iff.mp h
        obtain ⟨hlength, hescaped⟩ := ih.mp hm
        rw [List.take_succ_cons, escaped_cons hc]
        exact ⟨Option.map_eq_some_iff.mpr ⟨m, hlength, rfl⟩, hescaped⟩
      · rintro ⟨hlength, hescaped⟩
        obtain ⟨m, hm, rfl⟩ := Option.map_eq_some_iff.mp hlength
        rw [List.take_succ_cons, escaped_cons hc] at hescaped
        exact Option.map_eq_some_iff.mpr ⟨m, ih.mpr ⟨hm, hescaped⟩, rfl⟩

/-- A quoted value is read exactly where it can be taken apart into items. -/
theorem quotedLength?_eq_some_iff_items (hquote : quote ≠ '\\') :
    quotedLength? quote text = some n ↔
      ∃ items : List (List Char), (∀ item ∈ items, Item quote item) ∧
        items.flatten ++ [quote] <+: text ∧ n = items.flatten.length + 1 := by
  constructor
  · intro h
    fun_induction quotedLength? quote text generalizing n with
    | case1 | case2 | case3 => cases h
    | case4 c cs hc ih =>
        obtain ⟨m, hm, rfl⟩ := Option.map_eq_some_iff.mp h
        obtain ⟨items, hitems, hstands, rfl⟩ := ih hm
        refine ⟨['\\', c] :: items, List.forall_mem_cons.mpr ⟨.escape hc, hitems⟩, ?_, ?_⟩
        · exact (List.prefix_append_right_inj ['\\', c]).mpr hstands
        · simp
    | case5 cs hnil hcons =>
        obtain rfl := Option.some.inj h
        exact ⟨[], by simp, List.prefix_append _ _, rfl⟩
    | case6 c cs hnil hcons hne ih =>
        obtain ⟨m, hm, rfl⟩ := Option.map_eq_some_iff.mp h
        obtain ⟨items, hitems, hstands, rfl⟩ := ih hm
        have hc := ne_backslash hnil hcons
        refine ⟨[c] :: items, List.forall_mem_cons.mpr ⟨.plain hne hc, hitems⟩, ?_, ?_⟩
        · exact (List.prefix_append_right_inj [c]).mpr hstands
        · simp
  · rintro ⟨items, hitems, ⟨rest, rfl⟩, rfl⟩
    induction items with
    | nil => exact (quotedLength?_cons hquote rest).trans (if_pos rfl)
    | cons item items ih =>
        obtain ⟨hitem, hlater⟩ := List.forall_mem_cons.mp hitems
        have hrest := ih hlater
        cases hitem with
        | @plain c hne hc =>
            calc
              quotedLength? quote (c :: (items.flatten ++ [quote] ++ rest)) =
                  (quotedLength? quote (items.flatten ++ [quote] ++ rest)).map (· + 1) :=
                (quotedLength?_cons hc _).trans (if_neg hne)
              _ = some (([c] :: items).flatten.length + 1) := by
                rw [hrest]
                simp
        | @escape c hc =>
            calc
              quotedLength? quote ('\\' :: c :: (items.flatten ++ [quote] ++ rest)) =
                  (quotedLength? quote (items.flatten ++ [quote] ++ rest)).map (· + 2) := by
                rw [quotedLength?, if_neg hc]
              _ = some ((['\\', c] :: items).flatten.length + 1) := by
                rw [hrest]
                simp

end Length

section Position

variable {text rest : List Char} {start stop : Nat} {quote : Char}

theorem quotedAt_iff_length (hdrop : text.drop start = quote :: rest)
    (hquote : isValueQuote quote = true) :
    QuotedAt text start stop ↔ ∃ n, quotedLength? quote rest = some n ∧ stop = start + (n + 1) := by
  have hbackslash := isValueQuote_ne_backslash hquote
  rw [QuotedAt, hdrop]
  constructor
  · rintro ⟨_, items, -, hitems, hstands, rfl⟩
    obtain ⟨rfl, hrest⟩ := List.cons_prefix_cons.mp hstands
    exact ⟨_, (quotedLength?_eq_some_iff_items hbackslash).mpr ⟨items, hitems, hrest, rfl⟩, rfl⟩
  · rintro ⟨n, hn, rfl⟩
    obtain ⟨items, hitems, hstands, rfl⟩ := (quotedLength?_eq_some_iff_items hbackslash).mp hn
    exact ⟨quote, items, hquote, hitems, List.cons_prefix_cons.mpr ⟨rfl, hstands⟩, rfl⟩

theorem stringEnd?_eq_some_iff (hdrop : text.drop start = quote :: rest) :
    stringEnd? text start = .ok (some stop) ↔
      ∃ n, stringLength? quote rest = some n ∧ stop = start + (n + 1) := by
  rw [stringEnd?, hdrop, Except.ok.injEq, Option.map_eq_some_iff]
  constructor
  · rintro ⟨n, hn, rfl⟩
    exact ⟨n, hn, by omega⟩
  · rintro ⟨n, hn, rfl⟩
    exact ⟨n, hn, by omega⟩

/-- A quoted value is a string in which no backslash takes a line break along. -/
theorem quotedAt_iff_stringEnd? (hdrop : text.drop start = quote :: rest)
    (hquote : isValueQuote quote = true) :
    QuotedAt text start stop ↔ stringEnd? text start = .ok (some stop) ∧
      '\n' ∉ escaped (Segment.slice text ⟨start, stop⟩) := by
  have hbackslash := isValueQuote_ne_backslash hquote
  have hslice : ∀ n, escaped (Segment.slice text ⟨start, start + (n + 1)⟩) = escaped (rest.take n) := by
    intro n
    rw [Segment.slice, Nat.add_sub_cancel_left, hdrop, List.take_succ_cons, escaped_cons hbackslash]
  rw [quotedAt_iff_length hdrop hquote, stringEnd?_eq_some_iff hdrop]
  constructor
  · rintro ⟨n, hn, rfl⟩
    obtain ⟨hlength, hescaped⟩ := (quotedLength?_eq_some_iff hbackslash).mp hn
    exact ⟨⟨n, hlength, rfl⟩, by rwa [hslice]⟩
  · rintro ⟨⟨n, hlength, rfl⟩, hescaped⟩
    rw [hslice] at hescaped
    exact ⟨n, (quotedLength?_eq_some_iff hbackslash).mpr ⟨hlength, hescaped⟩, rfl⟩

theorem QuotedAt.stop_eq {other : Nat} (hdrop : text.drop start = quote :: rest)
    (hquote : isValueQuote quote = true) (hstop : QuotedAt text start stop)
    (hother : QuotedAt text start other) : stop = other := by
  obtain ⟨n, hn, rfl⟩ := (quotedAt_iff_length hdrop hquote).mp hstop
  obtain ⟨m, hm, rfl⟩ := (quotedAt_iff_length hdrop hquote).mp hother
  obtain rfl := Option.some.inj (hn.symm.trans hm)
  rfl

theorem quoted_eq_some_iff (hdrop : text.drop start = quote :: rest)
    (hquote : isValueQuote quote = true) :
    (Assignment.quoted (text.drop start)).map (start + ·) = some stop ↔ QuotedAt text start stop := by
  rw [quotedAt_iff_length hdrop hquote, hdrop, Assignment.quoted, if_pos hquote, Option.map_map,
    Option.map_eq_some_iff]
  exact exists_congr fun n => and_congr_right fun _ => eq_comm

/-- A quoted key is what stands between the quotes of a quoted value in front of a colon. -/
theorem explicitKey?_eq_some_iff (hdrop : text.drop start = quote :: rest)
    (hquote : isValueQuote quote = true) {key : List Char} :
    Object.explicitKey? (text.drop start) = some key ↔
      ∃ stop, QuotedAt text start stop ∧ Object.colonFollows (text.drop stop) = true ∧
        key = Segment.slice text ⟨start + 1, stop - 1⟩ := by
  have hnext : text.drop (start + 1) = rest := by
    rw [← List.drop_drop, hdrop]
    rfl
  have hbehind : ∀ n, text.drop (start + (n + 1)) = rest.drop n := by
    intro n
    rw [Nat.add_comm n, ← Nat.add_assoc, ← List.drop_drop, hnext]
  have hinside : ∀ n, Segment.slice text ⟨start + 1, start + (n + 1) - 1⟩ = rest.take (n - 1) := by
    intro n
    rw [Segment.slice, hnext]
    exact congrArg (fun k => rest.take k) (by dsimp only; omega)
  rw [hdrop, Object.explicitKey?, if_pos hquote]
  constructor
  · intro h
    split at h
    · rename_i n hn
      split_ifs at h with hcolon
      obtain rfl := Option.some.inj h
      refine ⟨start + (n + 1), ?_, by rwa [hbehind], (hinside n).symm⟩
      exact (quotedAt_iff_length hdrop hquote).mpr ⟨n, hn, rfl⟩
    · cases h
  · rintro ⟨stop, hstop, hcolon, rfl⟩
    obtain ⟨n, hn, rfl⟩ := (quotedAt_iff_length hdrop hquote).mp hstop
    rw [hbehind] at hcolon
    simp only [hn, hcolon, if_true, hinside n]

end Position

/-- At a quote, a quoted value stands up to an index exactly when the string there ends at that index and
no backslash in it takes a line break along; so there is at most one such index. It is this value that
assignments and keys read. -/
theorem quotedAt_iff_string {text : List Char} {start : Nat} {quote : Char}
    (hstart : text[start]? = some quote) (hquote : isValueQuote quote = true) :
    (∀ stop, QuotedAt text start stop ↔
      stringEnd? text start = .ok (some stop) ∧ '\n' ∉ escaped (Segment.slice text ⟨start, stop⟩)) ∧
    (∀ stop other, QuotedAt text start stop → QuotedAt text start other → stop = other) ∧
    (∀ stop, (Assignment.quoted (text.drop start)).map (start + ·) = some stop ↔
      QuotedAt text start stop) ∧
    ∀ key, Object.explicitKey? (text.drop start) = some key ↔
      ∃ stop, QuotedAt text start stop ∧ Object.colonFollows (text.drop stop) = true ∧
        key = Segment.slice text ⟨start + 1, stop - 1⟩ := by
  obtain ⟨hlt, rfl⟩ := List.getElem?_eq_some_iff.mp hstart
  have hdrop := List.drop_eq_getElem_cons hlt
  refine ⟨fun stop => ?_, fun stop other hstop hother => ?_, fun stop => ?_, fun key => ?_⟩
  · exact quotedAt_iff_stringEnd? hdrop hquote
  · exact hstop.stop_eq hdrop hquote hother
  · exact quoted_eq_some_iff hdrop hquote
  · exact explicitKey?_eq_some_iff hdrop hquote

-- an escaped quote, and an escaped backslash right in front of the closing quote
theorem quotedAt_iff_string_escapes :
    "'it\\'s \\\\' : 1".toList[0]? = some '\'' ∧ isValueQuote '\'' = true ∧
      QuotedAt "'it\\'s \\\\' : 1".toList 0 10 ∧
      stringEnd? "'it\\'s \\\\' : 1".toList 0 = .ok (some 10) ∧
      ∀ stop, QuotedAt "'it\\'s \\\\' : 1".toList 0 stop → stop = 10 := by
  have hstart : "'it\\'s \\\\' : 1".toList[0]? = some '\'' := rfl
  have hquote : isValueQuote '\'' = true := rfl
  obtain ⟨hstring, hunique, hread, -⟩ := quotedAt_iff_string hstart hquote
  have hvalue : QuotedAt "'it\\'s \\\\' : 1".toList 0 10 := (hread 10).mp (by decide)
  exact ⟨hstart, hquote, hvalue, ((hstring 10).mp hvalue).1, fun stop h => hunique stop 10 h hvalue⟩

end Pruner.Text
