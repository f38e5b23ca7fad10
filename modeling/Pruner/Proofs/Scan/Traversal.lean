import Pruner.Proofs.Scan.Agreement
import Pruner.Proofs.Scan.Lookup

/-!
# Scans by index

The walk over a text, the search for a closer, the split at commas and the pass for spans, each going
from index to index and raising what its look-ups raise. A literal without end stops the walk with a
missing value, which the search and the pass take care of. An index outside the text nobody takes care
of: it would stop them all, and it never comes up.
-/

namespace Pruner.Scan

theorem lt_of_literalEndAt {text : List Char} {i j : Nat} (h : literalEndAt text i = .ok j)
    (hne : j ≠ i) : i < j := by
  rw [literalEndAt_eq] at h
  cases hend : literalEnd text i with
  | error fault => simp [hend, Except.mapError] at h
  | ok k =>
      obtain rfl : k = j := by simpa [hend, Except.mapError] using h
      have hle := (literalLength_of_literalEnd hend).2.1
      omega

/-! ### The walk -/

/-- Hands every character outside literals from `index` to `stop` to `each`, with its index and the
depth behind it, for as long as `each` goes on. -/
def walkAt {β : Type} (each : Nat → Char → Int → β → ForInStep β) (text : List Char) (stop : Nat)
    (depth : Int) (index : Nat) (acc : β) : Except Miss β :=
  if index < stop then
    match _hend : literalEndAt text index with
    | .error miss => .error miss
    | .ok next =>
      if _hne : next ≠ index then walkAt each text stop depth next acc
      else
        match charAt text index with
        | .error miss => .error miss
        | .ok c =>
          match each index c (depth + depthChange c) acc with
          | .done acc => .ok acc
          | .yield acc => walkAt each text stop (depth + depthChange c) (index + 1) acc
  else .ok acc
termination_by stop - index
decreasing_by
  · have := lt_of_literalEndAt _hend _hne
    omega
  · omega

section Walk

variable {β : Type} {each : Nat → Char → Int → β → ForInStep β} {text : List Char} {stop index : Nat}
variable {depth : Int} {acc : β} {prior : Option Char}

theorem walkAt_stop (h : stop ≤ index) : walkAt each text stop depth index acc = .ok acc := by
  rw [walkAt, if_neg (Nat.not_lt.mpr h)]

theorem walkAt_of_lt (h : index < stop) :
    walkAt each text stop depth index acc =
      literalEndAt text index >>= fun next =>
        if next ≠ index then walkAt each text stop depth next acc
        else charAt text index >>= fun c =>
          match each index c (depth + depthChange c) acc with
          | .done acc => .ok acc
          | .yield acc => walkAt each text stop (depth + depthChange c) (index + 1) acc := by
  rw [walkAt, if_pos h]
  split
  · rename_i miss hmiss
    rw [hmiss]
    rfl
  · rename_i next hnext
    rw [hnext, Miss.bind_ok]
    split
    · rfl
    · cases charAt text index <;> rfl

theorem walkAt_outside (h : index < stop) (htext : text.length ≤ index) :
    walkAt each text stop depth index acc = .error .index := by
  rw [walkAt_of_lt h, literalEndAt, charAt_of_le htext]
  rfl

theorem Cursor.literalEndAt_eq {c : Char} {t : List Char} (h : Cursor text index prior (c :: t)) :
    literalEndAt text index =
      ((literalLength prior (c :: t)).map (index + ·)).mapError fun _ => .value := by
  rw [literalEndAt_of_drop h.rest_eq, h.prior_eq]

theorem walkAt_broken {c : Char} {t : List Char} {what : Unterminated}
    (hcur : Cursor text index prior (c :: t)) (h : index < stop)
    (hn : literalLength prior (c :: t) = .error what) :
    walkAt each text stop depth index acc = .error .value := by
  rw [walkAt_of_lt h, hcur.literalEndAt_eq, hn]
  rfl

theorem Cursor.pass_literal {c : Char} {cs : List Char} {n : Nat}
    (h : Cursor text index prior (c :: cs)) (hn : literalLength prior (c :: cs) = .ok (n + 1)) :
    Cursor text (index + (n + 1)) (lastSignificant prior (c :: cs.take n)) (cs.drop n) ∧
      literalEndAt text index = .ok (index + (n + 1)) := by
  have hle : n ≤ cs.length := by simpa using literalLength_le hn
  constructor
  · rw [← List.take_append_drop n cs, ← List.cons_append] at h
    have hnext := h.advance
    rwa [List.length_cons, List.length_take_of_le hle] at hnext
  · rw [h.literalEndAt_eq, hn]
    rfl

theorem walkAt_next {next : Nat} (hend : literalEndAt text index = .ok next) (hne : next ≠ index)
    (h : index < stop) :
    walkAt each text stop depth index acc = walkAt each text stop depth next acc := by
  rw [walkAt_of_lt h, hend, Miss.bind_ok, if_pos hne]

theorem walkAt_char {c : Char} {t : List Char} (hcur : Cursor text index prior (c :: t))
    (h : index < stop) (hn : literalLength prior (c :: t) = .ok 0) :
    walkAt each text stop depth index acc =
      match each index c (depth + depthChange c) acc with
      | .done acc => .ok acc
      | .yield acc => walkAt each text stop (depth + depthChange c) (index + 1) acc := by
  have hend : literalEndAt text index = .ok index := by
    rw [hcur.literalEndAt_eq, hn]
    rfl
  rw [walkAt_of_lt h, hend, Miss.bind_ok, if_neg (by simp), charAt_of_drop hcur.rest_eq,
    Miss.bind_ok]

end Walk

/-! ### The closer of a brace -/

def closerStep (index : Nat) (c : Char) (depth : Int) (_ : Option Nat) : ForInStep (Option Nat) :=
  if depth < 0 then .done none
  else if depth = 0 then .done (if c = '}' then some index else none)
  else .yield none

def closingAt (text : List Char) (start : Nat) : Except Miss (Option Nat) := do
  if text.length ≤ start then return none
  let c ← charAt text start
  if c ≠ '{' then return none
  Miss.rescue (walkAt closerStep text text.length 0 start none) none

theorem Cursor.lt_length {text t : List Char} {index : Nat} {prior : Option Char} {c : Char}
    (h : Cursor text index prior (c :: t)) : index < text.length :=
  lt_of_drop h.rest_eq

section Closer

variable {text t : List Char} {index : Nat} {prior : Option Char} {c : Char} {depth : Int}

theorem walkAt_closer_inside {d : Nat} (hcur : Cursor text index prior (c :: t))
    (hn : literalLength prior (c :: t) = .ok 0) (hdepth : depth + depthChange c = (d + 1 : Nat)) :
    walkAt closerStep text text.length depth index none =
      walkAt closerStep text text.length (d + 1 : Nat) (index + 1) none := by
  have hstep : closerStep index c (d + 1 : Nat) none = .yield none := by
    rw [closerStep, if_neg (by omega), if_neg (by omega)]
  rw [walkAt_char hcur hcur.lt_length hn, hdepth, hstep]

theorem walkAt_closer_end (hcur : Cursor text index prior (c :: t))
    (hn : literalLength prior (c :: t) = .ok 0) (hdepth : depth + depthChange c = 0) :
    walkAt closerStep text text.length depth index none =
      .ok (if c = '}' then some index else none) := by
  rw [walkAt_char hcur hcur.lt_length hn, hdepth]
  rfl

/-- Behind the opening brace the depth is one more than the number of brackets opened since. -/
theorem rescue_walkAt_closer {rest : List Char} (d : Nat) (hcur : Cursor text index prior rest) :
    Miss.rescue (walkAt closerStep text text.length (d + 1 : Nat) index none) none =
      .ok ((closingFrom? d prior rest).map (index + ·)) := by
  fun_induction closingFrom? d prior rest generalizing index with
  | case1 d prior =>
      rw [walkAt_stop (List.drop_eq_nil_iff.mp hcur.rest_eq)]
      rfl
  | case2 d prior c cs what hn =>
      rw [walkAt_broken hcur hcur.lt_length hn]
      rfl
  | case3 d prior c cs n hn ih =>
      obtain ⟨hnext, hend⟩ := hcur.pass_literal hn
      rw [walkAt_next hend (by omega) hcur.lt_length, ih hnext, map_add_map]
  | case4 d prior c cs hn here hopen =>
      rename_i ih
      have hchange : depthChange c = 1 := by simp [depthChange, hopen]
      rw [walkAt_closer_inside (d := d + 1) hcur hn (by omega), ih hcur.advance_char, map_add_map]
  | case5 prior cs hn hopen hclose =>
      rw [walkAt_closer_end hcur hn (by decide)]
      rfl
  | case6 prior c cs hn hopen hclose hbrace =>
      have hchange : depthChange c = -1 := by simp [depthChange, hopen, hclose]
      rw [walkAt_closer_end hcur hn (by omega), if_neg hbrace]
      rfl
  | case7 prior c cs hn here hopen hclose d =>
      rename_i ih
      have hchange : depthChange c = -1 := by simp [depthChange, hopen, hclose]
      rw [walkAt_closer_inside (d := d) hcur hn (by omega), ih hcur.advance_char, map_add_map]
  | case8 d prior c cs hn here hopen hclose =>
      rename_i ih
      have hchange : depthChange c = 0 := by simp [depthChange, hopen, hclose]
      rw [walkAt_closer_inside (d := d) hcur hn (by omega), ih hcur.advance_char, map_add_map]

end Closer

theorem closingAt_eq (text : List Char) (start : Nat) :
    closingAt text start = .ok (closing? text start) := by
  rw [closing?]
  cases hdrop : text.drop start with
  | nil =>
      rw [closingAt, if_pos (List.drop_eq_nil_iff.mp hdrop)]
      rfl
  | cons c rest =>
      have hcur : Cursor text start _ (c :: rest) := ⟨rfl, hdrop⟩
      rw [closingAt, if_neg (Nat.not_le.mpr (lt_of_drop hdrop)), charAt_of_drop hdrop]
      by_cases hbrace : c = '{'
      · subst hbrace
        have hopen : walkAt closerStep text text.length 0 start none =
            walkAt closerStep text text.length (0 + 1 : Nat) (start + 1) none :=
          walkAt_closer_inside hcur (Bracket.literalLength_opener _ .brace rest) (by decide)
        have hwalk := rescue_walkAt_closer 0 (hcur.advance_opener (b := .brace))
        rw [← hopen] at hwalk
        exact hwalk
      · rw [Miss.bind_ok, if_pos hbrace]
        simp only [hbrace, if_false]
        rfl

/-! ### Segments -/

/-- Ends a segment at a comma outside all brackets: the segments so far, and where the next begins. -/
def segmentStep (index : Nat) (c : Char) (depth : Int) (found : List Segment × Nat) :
    ForInStep (List Segment × Nat) :=
  .yield (if c = ',' ∧ depth = 0 then (found.1 ++ [⟨found.2, index⟩], index + 1) else found)

def segmentsAt (text : List Char) (start stop : Nat) : Except Miss (List Segment) := do
  let found ← walkAt segmentStep text stop 0 start ([], start)
  return found.1 ++ [⟨found.2, stop⟩]

theorem walkAt_segments {text : List Char} {index : Nat} {prior : Option Char} {rest : List Char}
    (hcur : Cursor text index prior rest) (stop : Nat) (depth : Int) (found : List Segment × Nat) :
    (walkAt segmentStep text stop depth index found).map (fun r => r.1 ++ [⟨r.2, stop⟩]) =
      ((visits prior index stop rest).map fun vs =>
        found.1 ++ Segment.between found.2 (topCommas depth vs) stop).mapError Fault.miss := by
  fun_induction visits prior index stop rest generalizing depth found with
  | case1 prior index rest hstop =>
      rw [walkAt_stop hstop]
      rfl
  | case2 prior index hlt =>
      rw [walkAt_outside (Nat.lt_of_not_le hlt) (List.drop_eq_nil_iff.mp hcur.rest_eq)]
      rfl
  | case3 prior index hlt c cs what hn =>
      rw [walkAt_broken hcur (Nat.lt_of_not_le hlt) hn]
      rfl
  | case4 prior index hlt c cs n hn ih =>
      obtain ⟨hnext, hend⟩ := hcur.pass_literal hn
      rw [walkAt_next hend (by omega) (Nat.lt_of_not_le hlt), ih hnext]
  | case5 prior index hlt c cs hn ih =>
      rw [walkAt_char hcur (Nat.lt_of_not_le hlt) hn]
      simp only [segmentStep]
      rw [ih hcur.advance_char]
      cases visits (lastSignificant prior [c]) (index + 1) stop cs with
      | error fault => rfl
      | ok vs =>
          simp only [Except.map, Except.mapError, topCommas]
          split <;> simp

theorem segmentsAt_eq (text : List Char) (start stop : Nat) :
    segmentsAt text start stop = (segments text start stop).mapError Fault.miss := by
  have hwalk := walkAt_segments (Cursor.ofIndex text start) stop 0 ([], start)
  simp only [List.nil_append] at hwalk
  exact hwalk

-- a string without end, and a stretch that reaches beyond the text
example : segmentsAt "a, 'b".toList 0 5 = .error .value := by
  rw [segmentsAt_eq]
  cbv

example : segmentsAt "a, b".toList 0 5 = .error .index := by
  cbv

section Inside

variable {text tail : List Char} {start : Nat} {F : Fragment}

theorem segments_inside (hdrop : text.drop start = '{' :: (F.text ++ '}' :: tail))
    (hF : F.Reads (some '{') ('}' :: tail)) :
    segments text (start + 1) (start + 1 + F.text.length) =
      .ok (Segment.between (start + 1) (F.commas (start + 1)) (start + 1 + F.text.length)) := by
  have hcur : Cursor text start _ ('{' :: (F.text ++ '}' :: tail)) := ⟨rfl, hdrop⟩
  exact segments_fragment (hcur.advance_opener (b := .brace)) hF

/-- The split inside a balanced span finds the end of every literal and never leaves the text. -/
theorem segmentsAt_inside (hdrop : text.drop start = '{' :: (F.text ++ '}' :: tail))
    (hF : F.Reads (some '{') ('}' :: tail)) :
    segmentsAt text (start + 1) (start + 1 + F.text.length) =
      .ok (Segment.between (start + 1) (F.commas (start + 1)) (start + 1 + F.text.length)) := by
  rw [segmentsAt_eq, segments_inside hdrop hF]
  rfl

end Inside

/-! ### Spans -/

/-- A bracket that is still open, by its character, with the commas found directly inside it. -/
structure Pending where
  opener : Char
  start : Nat
  commas : List Nat

def Opening.pending (o : Opening) : Pending :=
  ⟨o.bracket.opener, o.start, o.commas.reverse⟩

def openers : List Char := ['{', '[', '(']

def closers : List Char := ['}', ']', ')']

def positionOf (cs : List Char) (c : Char) : Except Miss Nat :=
  match cs.idxOf? c with
  | some i => .ok i
  | none => .error .value

/-- Reads one character outside literals, and yields the span that it closes. -/
def pendingStep (stack : List Pending) (index : Nat) (c : Char) :
    Except Miss (List Pending × Option Span) :=
  if c = '{' ∨ c ∈ openers ∧ stack ≠ [] then .ok (⟨c, index, []⟩ :: stack, none)
  else if c ∈ closers ∧ stack ≠ [] then
    match stack with
    | [] => .error .index
    | top :: outer => do
      let opened ← positionOf openers top.opener
      let closed ← positionOf closers c
      if opened ≠ closed then return ([], none)
      else if c = '}' then return (outer, some ⟨top.start, index, top.commas⟩)
      else return (outer, none)
  else if c = ',' ∧ stack ≠ [] then
    match stack with
    | [] => .error .index
    | top :: outer => .ok ({ top with commas := top.commas ++ [index] } :: outer, none)
  else .ok (stack, none)

theorem not_mem_openers {c : Char} (h : Bracket.opened? c = none) : c ∉ openers := by
  intro hc
  simp only [openers, List.mem_cons, List.not_mem_nil, or_false] at hc
  rcases hc with rfl | rfl | rfl <;> cases h

theorem not_mem_closers {c : Char} (h : Bracket.closed? c = none) : c ∉ closers := by
  intro hc
  simp only [closers, List.mem_cons, List.not_mem_nil, or_false] at hc
  rcases hc with rfl | rfl | rfl <;> cases h

theorem pendingStep_plain {c : Char} (hopen : Bracket.opened? c = none)
    (hclose : Bracket.closed? c = none) (stack : List Pending) (index : Nat) :
    pendingStep stack index c =
      .ok (match stack with
        | [] => []
        | top :: outer =>
          { top with commas := top.commas ++ if c = ',' then [index] else [] } :: outer, none) := by
  have hbrace : c ≠ '{' := by
    rintro rfl
    cases hopen
  have hopener := not_mem_openers hopen
  have hcloser := not_mem_closers hclose
  cases stack with
  | nil => simp [pendingStep, hbrace]
  | cons top outer =>
      simp only [pendingStep, hbrace, hopener, hcloser, false_and, or_self, if_false]
      by_cases hcomma : c = ',' <;> simp [hcomma]

theorem pendingStep_closer (top : Opening) (outer : Nesting) (index : Nat) (b : Bracket) :
    pendingStep ((top :: outer).map Opening.pending) index b.closer =
      .ok ((Nesting.step (top :: outer) index b.closer).1.map Opening.pending,
        (Nesting.step (top :: outer) index b.closer).2) := by
  obtain ⟨a, start, commas⟩ := top
  cases a <;> cases b <;> rfl

theorem pendingStep_eq (stack : Nesting) (index : Nat) (c : Char) :
    pendingStep (stack.map Opening.pending) index c =
      .ok ((stack.step index c).1.map Opening.pending, (stack.step index c).2) := by
  cases hopen : Bracket.opened? c with
  | some b =>
      obtain rfl := Bracket.eq_opener_of_opened? hopen
      cases stack <;> cases b <;> rfl
  | none =>
      cases hclose : Bracket.closed? c with
      | some b =>
          obtain rfl := Bracket.eq_closer_of_closed? hclose
          cases stack with
          | nil => cases b <;> rfl
          | cons top outer => exact pendingStep_closer top outer index b
      | none =>
          rw [pendingStep_plain hopen hclose]
          cases stack with
          | nil => rw [Nesting.step_plain_outside hopen hclose]; rfl
          | cons top outer =>
              rw [Nesting.step_plain hopen hclose]
              simp [Opening.gather, Opening.pending]

/-- Index after the literal to pass over: outside all spans there is none. -/
def literalEndUnder (stack : List Pending) (text : List Char) (index : Nat) : Except Miss Nat :=
  if stack ≠ [] then literalEndAt text index else .ok index

theorem lt_of_literalEndUnder {stack : List Pending} {text : List Char} {i j : Nat}
    (h : literalEndUnder stack text i = .ok j) (hne : j ≠ i) : i < j := by
  rw [literalEndUnder] at h
  split at h
  · exact lt_of_literalEndAt h hne
  · cases h
    exact absurd rfl hne

/-- The spans that close from `index` on, behind those found so far. A literal without end ends the
pass. -/
def spansFromAt (text : List Char) (stack : List Pending) (index : Nat) (found : List Span) :
    Except Miss (List Span) :=
  if index < text.length then
    match _hend : literalEndUnder stack text index with
    | .error .value => .ok found
    | .error miss => .error miss
    | .ok next =>
      if _hne : next ≠ index then spansFromAt text stack next found
      else
        match charAt text index with
        | .error miss => .error miss
        | .ok c =>
          match pendingStep stack index c with
          | .error miss => .error miss
          | .ok (stack, span?) => spansFromAt text stack (index + 1) (found ++ span?.toList)
  else .ok found
termination_by text.length - index
decreasing_by
  · have := lt_of_literalEndUnder _hend _hne
    omega
  · omega

def spansAt (text : List Char) : Except Miss (List Span) :=
  spansFromAt text [] 0 []

section Spans

variable {text : List Char} {stack later : List Pending} {index : Nat} {found : List Span}

theorem spansFromAt_broken (h : index < text.length)
    (hend : literalEndUnder stack text index = .error .value) :
    spansFromAt text stack index found = .ok found := by
  rw [spansFromAt, if_pos h]
  split <;> simp_all

theorem spansFromAt_next {next : Nat} (h : index < text.length)
    (hend : literalEndUnder stack text index = .ok next) (hne : next ≠ index) :
    spansFromAt text stack index found = spansFromAt text stack next found := by
  rw [spansFromAt, if_pos h]
  split <;> simp_all

theorem spansFromAt_char {c : Char} {span? : Option Span} (h : index < text.length)
    (hend : literalEndUnder stack text index = .ok index) (hc : charAt text index = .ok c)
    (hstep : pendingStep stack index c = .ok (later, span?)) :
    spansFromAt text stack index found =
      spansFromAt text later (index + 1) (found ++ span?.toList) := by
  rw [spansFromAt, if_pos h]
  split <;> simp_all

end Spans

theorem Cursor.literalEndUnder_eq {text t : List Char} {index : Nat} {prior : Option Char} {c : Char}
    (h : Cursor text index prior (c :: t)) (stack : Nesting) :
    literalEndUnder (stack.map Opening.pending) text index =
      ((stack.literalLength prior (c :: t)).map (index + ·)).mapError fun _ => .value := by
  cases stack with
  | nil => rfl
  | cons top outer => exact h.literalEndAt_eq

theorem spansFromAt_eq {text : List Char} {index : Nat} {prior : Option Char} {rest : List Char}
    (hcur : Cursor text index prior rest) (stack : Nesting) (found : List Span) :
    spansFromAt text (stack.map Opening.pending) index found =
      .ok (found ++ spansFrom stack prior index rest) := by
  fun_induction spansFrom stack prior index rest generalizing found with
  | case1 stack prior index =>
      have hend := List.drop_eq_nil_iff.mp hcur.rest_eq
      rw [spansFromAt, if_neg (Nat.not_lt.mpr hend), List.append_nil]
  | case2 stack prior index c cs what hn =>
      have hend := hcur.literalEndUnder_eq stack
      rw [hn] at hend
      rw [spansFromAt_broken hcur.lt_length hend, List.append_nil]
  | case3 stack prior index c cs n hn ih =>
      have hend := hcur.literalEndUnder_eq stack
      rw [hn] at hend
      have hliteral : literalLength prior (c :: cs) = .ok (n + 1) := by
        cases stack with
        | nil => cases hn
        | cons top outer => exact hn
      rw [spansFromAt_next hcur.lt_length hend (Nat.ne_of_gt (Nat.lt_add_of_pos_right n.succ_pos)),
        ← ih (hcur.pass_literal hliteral).1]
  | case4 stack prior index c cs hn next =>
      rename_i ih
      have hend := hcur.literalEndUnder_eq stack
      rw [hn] at hend
      rw [spansFromAt_char hcur.lt_length hend (charAt_of_drop hcur.rest_eq)
        (pendingStep_eq stack index c), ih hcur.advance_char, List.append_assoc]

theorem spansAt_eq (text : List Char) : spansAt text = .ok (spans text) :=
  spansFromAt_eq (Cursor.ofIndex text 0) [] []

end Pruner.Scan
