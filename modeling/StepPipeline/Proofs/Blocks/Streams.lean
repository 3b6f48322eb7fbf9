import StepPipeline.Blocks.Parsing
import StepPipeline.Proofs.Json.RoundTrip

/-!
# Event streams

What a `stream_parser` makes of a body is made line by line: of two bodies with a line feed between
them it makes what it makes of the first, and then what it makes of the second
(`EventStream.ofBody_append`).

A stream can be written in many ways: blanks around `data:` and around what it carries, either
ending of a line, and lines in between that carry nothing. `Renders` is that relation between the
lines of a stream and its texts, and the texts of a stream are all read as the events of its lines
(`ofBody_of_renders`).

Main statement: `streams_read`.
-/

namespace StepPipeline.Blocks

/-! ## Lines that carry something -/

/-- Blanks that stay on a line. -/
def IsGap (cs : List Char) : Prop := ∀ c ∈ cs, Text.isBlank c = true ∧ c ≠ '\n'

theorem isGap_nil : IsGap [] := List.forall_mem_nil _

/-- The line carries a text behind `data:`. -/
def Carries (line text : List Char) : Prop :=
  ∃ front middle back, IsGap front ∧ IsGap middle ∧ IsGap back ∧
    line = front ++ "data:".toList ++ middle ++ text ++ back

variable {line text : List Char}

theorem dropLeading?_trim {gap : List Char} (hgap : ∀ c ∈ gap, Text.isBlank c = true)
    (rest : List Char) :
    Text.dropLeading? "data:".toList (Text.trim (gap ++ "data:".toList ++ rest)) =
      some (Text.trimEnd rest) := by
  have hstart : Text.trimStart ("data:".toList ++ rest) = "data:".toList ++ rest :=
    Text.trimStart_of_head (by rintro _ ⟨⟩; rfl)
  have hend : Text.trimEnd ("data:".toList ++ rest) = "data:".toList ++ Text.trimEnd rest :=
    Text.trimEnd_append_cons rfl "data".toList rest
  rw [List.append_assoc, Text.trim_of_blank_append hgap, Text.trim, hstart, hend,
    Text.dropLeading?_eq_some_iff]

theorem IsGap.isBlank {gap : List Char} (h : IsGap gap) : ∀ c ∈ gap, Text.isBlank c = true :=
  fun c hc => (h c hc).1

theorem dropLeading?_of_carries (h : Carries line text) :
    ∃ rest, Text.dropLeading? "data:".toList (Text.trim line) = some rest ∧
      Text.trim rest = Text.trim text := by
  obtain ⟨front, middle, back, hfront, hmiddle, hback, rfl⟩ := h
  have hline : front ++ "data:".toList ++ middle ++ text ++ back =
      front ++ "data:".toList ++ (middle ++ text ++ back) := by
    simp only [List.append_assoc]
  refine ⟨Text.trimEnd (middle ++ text ++ back), ?_, ?_⟩
  · rw [hline, dropLeading?_trim hfront.isBlank]
  · rw [Text.trim_trimEnd, Text.trim_append_of_blank hback.isBlank,
      Text.trim_of_blank_append hmiddle.isBlank]

theorem payload?_of_carries (h : Carries line text) (htrim : Text.trim text = text) :
    payload? line = if text = [] then none else some text := by
  obtain ⟨rest, hdrop, hrest⟩ := dropLeading?_of_carries h
  rw [payload?, hdrop]
  dsimp only
  rw [hrest, htrim]

/-- A line from which a payload is read has the form of one that carries it. -/
theorem payload?_of_not_carries (hline : '\n' ∉ line) (h : ∀ text, ¬ Carries line text) :
    payload? line = none := by
  unfold payload?
  split
  · next rest hdrop =>
    -- What is trimmed away in front and behind are the gaps of the line.
    obtain ⟨gap, hgap, hend⟩ := Text.exists_trimEnd_append (Text.trimStart line)
    have htrim : Text.trimEnd (Text.trimStart line) = "data:".toList ++ rest :=
      Text.dropLeading?_eq_some_iff.mp hdrop
    have hsplit : line = line.takeWhile Text.isBlank ++ "data:".toList ++ [] ++ rest ++ gap := by
      rw [htrim] at hend
      rw [List.append_nil, List.append_assoc, List.append_assoc, ← List.append_assoc _ rest, ← hend]
      exact List.takeWhile_append_dropWhile.symm
    have hfeed : ∀ c ∈ line, c ≠ '\n' := by
      rintro c hc rfl
      exact hline hc
    rw [hsplit] at hfeed
    simp only [List.forall_mem_append] at hfeed
    refine absurd ⟨_, [], gap, ?_, isGap_nil, ?_, hsplit⟩ (h rest)
    · exact fun c hc => ⟨List.mem_takeWhile_imp hc, hfeed.1.1.1.1 c hc⟩
    · exact fun c hc => ⟨hgap c hc, hfeed.2 c hc⟩
  · rfl

theorem Carries.lineFeed_not_mem (h : Carries line text) (htext : '\n' ∉ text) : '\n' ∉ line := by
  obtain ⟨front, middle, back, hfront, hmiddle, hback, rfl⟩ := h
  have hgap : ∀ {gap}, IsGap gap → '\n' ∉ gap := fun hgap hmem => (hgap _ hmem).2 rfl
  simp only [List.mem_append, not_or]
  exact ⟨⟨⟨⟨hgap hfront, by decide⟩, hgap hmiddle⟩, htext⟩, hgap hback⟩

/-! ## Streams put together -/

namespace EventStream

/-- One stream and then another. -/
def append (s t : EventStream) : EventStream :=
  ⟨s.events ++ t.events, s.content ++ t.content, s.complete || t.complete⟩

theorem append_assoc (s t u : EventStream) : (s.append t).append u = s.append (t.append u) := by
  simp [append, Bool.or_assoc]

theorem append_empty (s : EventStream) : s.append {} = s := by
  simp [append]

theorem receive_eq (s : EventStream) (payload : List Char) :
    s.receive payload = s.append (receive {} payload) := by
  unfold receive
  split <;> simp [append]

theorem foldl_receive (s : EventStream) (payloads : List (List Char)) :
    payloads.foldl receive s = s.append (payloads.foldl receive {}) := by
  -- The stream that is there already stays in front, so it has to vary along the payloads.
  induction payloads generalizing s with
  | nil => exact (append_empty s).symm
  | cons payload payloads ih =>
      rw [List.foldl_cons, List.foldl_cons, ih, ih (receive {} payload), ← append_assoc,
        ← receive_eq]

/-- A line feed divides a body into two that are read apart. -/
theorem ofBody_append (a b : List Char) :
    ofBody (a ++ '\n' :: b) = (ofBody a).append (ofBody b) := by
  rw [ofBody, Text.filterMap_lines_append rfl, List.foldl_append, foldl_receive]
  rfl

theorem ofBody_line (h : '\n' ∉ line) :
    ofBody line = (payload? line).toList.foldl receive {} := by
  rw [ofBody, Text.filterMap_lines_single rfl h]

end EventStream

/-! ## Lines of a stream and their texts -/

/-- A line of a stream: an event, the word that completes the stream, or a line that carries
nothing. -/
inductive Line where
  | event (value : Json)
  | done
  | other

namespace Line

def value? : Line → Option Json
  | event v => some v
  | _ => none

def values (lines : List Line) : List Json := lines.filterMap value?

def isDone : Line → Bool
  | done => true
  | _ => false

def payload? : Line → Option (List Char)
  | event v => some v.compact.toList
  | done => some doneMark
  | other => none

def Writes : Line → List Char → Prop
  | event v, line => Carries line v.compact.toList
  | done, line => Carries line doneMark
  | other, line => '\n' ∉ line ∧ (Carries line [] ∨ ∀ text, ¬ Carries line text)

theorem isDone_iff {l : Line} : l.isDone = true ↔ l = done := by
  cases l <;> simp [isDone]

end Line

/-- The texts of lines. Every line ends with a line feed, perhaps behind a carriage return; the
last one need not. -/
inductive Renders : List Line → List Char → Prop where
  | nil : Renders [] []
  | last {l line} : l.Writes line → Renders [l] line
  | feed {l ls line body} : l.Writes line → Renders ls body →
      Renders (l :: ls) (line ++ '\n' :: body)
  | returnFeed {l ls line body} : l.Writes line → Renders ls body →
      Renders (l :: ls) (line ++ '\r' :: '\n' :: body)

/-- What lines carry in all. -/
def EventStream.ofLines (lines : List Line) : EventStream where
  events := Line.values lines
  content := (String.join ((Line.values lines).filterMap fragment?)).toList
  complete := lines.any Line.isDone

theorem EventStream.ofLines_cons (l : Line) (ls : List Line) :
    ofLines (l :: ls) = (ofLines [l]).append (ofLines ls) := by
  have hvalues : Line.values (l :: ls) = Line.values [l] ++ Line.values ls :=
    List.filterMap_append (l := [l])
  simp only [ofLines, append, hvalues, List.filterMap_append, String.toList_join,
    List.flatMap_append, List.any_cons, List.any_nil, Bool.or_false]

/-! ## Lines are read as they were written -/

theorem Line.Writes.lineFeed_not_mem {l : Line} (h : l.Writes line) : '\n' ∉ line := by
  cases l with
  | event v => exact Carries.lineFeed_not_mem h v.lineFeed_not_mem_compact
  | done => exact Carries.lineFeed_not_mem h (by decide)
  | other => exact h.1

/-- The word that completes a stream is no JSON text, so no event is taken for it. -/
theorem parse?_doneMark : Json.parse? (String.ofList doneMark) = none := by
  have hopen : Written.skip doneMark = ['[', 'D', 'O', 'N', 'E', ']'] := by decide
  have hword : Written.skip ['D', 'O', 'N', 'E', ']'] = ['D', 'O', 'N', 'E', ']'] := by decide
  have hitems : Written.itemsFront? ['D', 'O', 'N', 'E', ']'] [] = none := by
    rw [Written.itemsFront?_eq, Written.front?_of_skip hword]
    rfl
  have hread : Written.read (String.ofList doneMark) = none := by
    rw [Written.read_eq, String.toList_ofList, Written.front?_of_skip hopen, if_pos rfl, hword]
    exact congrArg (Option.bind · _) hitems
  rw [Json.parse?, hread]
  rfl

/-- The events of a line are read back from their texts. -/
def Line.ReadsBack (l : Line) : Prop := ∀ v ∈ l.value?, Json.parse? v.compact = some v

theorem payload?_of_writes {l : Line} (h : l.Writes line) (hread : l.ReadsBack) :
    payload? line = l.payload? := by
  cases l with
  | event v =>
      -- An empty text would not be read back.
      have hne : v.compact.toList ≠ [] := by
        intro hnil
        have hparse := hread v rfl
        rw [String.toList_eq_nil_iff.mp hnil, Json.parse?_empty] at hparse
        cases hparse
      rw [payload?_of_carries h v.trim_compact, if_neg hne]
      rfl
  | done => exact payload?_of_carries h (by decide)
  | other =>
      rcases h with ⟨hline, hempty | hnone⟩
      · exact payload?_of_carries hempty rfl
      · exact payload?_of_not_carries hline hnone

theorem receive_payload {l : Line} (hread : l.ReadsBack) :
    l.payload?.toList.foldl EventStream.receive {} = EventStream.ofLines [l] := by
  cases l with
  | event v =>
      have hparse := hread v rfl
      -- The mark is not read back as a value, so no event is written like it.
      have hne : v.compact.toList ≠ doneMark := by
        intro hmark
        rw [← String.ofList_toList (s := v.compact), hmark, parse?_doneMark] at hparse
        cases hparse
      have hevent : eventOf v.compact.toList = v := by
        rw [eventOf, String.ofList_toList, hparse]
        rfl
      show EventStream.receive {} v.compact.toList = _
      rw [EventStream.receive, if_neg hne, hevent]
      cases hfragment : fragment? v <;>
        simp [EventStream.ofLines, Line.values, Line.value?, Line.isDone, hfragment]
  | done => rfl
  | other => rfl

theorem ofBody_of_writes {l : Line} (h : l.Writes line) (hread : l.ReadsBack) :
    EventStream.ofBody line = EventStream.ofLines [l] := by
  rw [EventStream.ofBody_line h.lineFeed_not_mem, payload?_of_writes h hread,
    receive_payload hread]

theorem payload?_append_return (line : List Char) :
    payload? (line ++ ['\r']) = payload? line := by
  rw [payload?, payload?, Text.trim_append_of_blank (List.forall_mem_singleton.mpr rfl)]

theorem ofBody_append_return (hline : '\n' ∉ line) :
    EventStream.ofBody (line ++ ['\r']) = EventStream.ofBody line := by
  have hreturn : '\n' ∉ line ++ ['\r'] := by simpa using hline
  rw [EventStream.ofBody_line hreturn, EventStream.ofBody_line hline, payload?_append_return]

/-- However the lines of a stream are written, they are read as the same stream. -/
theorem ofBody_of_renders {lines : List Line} {body : List Char} (h : Renders lines body)
    (hread : ∀ v ∈ Line.values lines, Json.parse? v.compact = some v) :
    EventStream.ofBody body = EventStream.ofLines lines := by
  have hlines : ∀ l ∈ lines, l.ReadsBack := fun l hl v hv =>
    hread v (List.mem_filterMap.mpr ⟨l, hl, hv⟩)
  clear hread
  induction h with
  | nil => rfl
  | last hwrites => exact ofBody_of_writes hwrites (hlines _ List.mem_cons_self)
  | feed hwrites _ ih =>
      obtain ⟨hfirst, hrest⟩ := List.forall_mem_cons.mp hlines
      rw [EventStream.ofBody_append, ofBody_of_writes hwrites hfirst, ih hrest,
        ← EventStream.ofLines_cons]
  | @returnFeed l ls line body hwrites _ ih =>
      obtain ⟨hfirst, hrest⟩ := List.forall_mem_cons.mp hlines
      -- To the reader the carriage return is a blank at the end of the line.
      have hsplit : line ++ '\r' :: '\n' :: body = line ++ ['\r'] ++ '\n' :: body := by simp
      rw [hsplit, EventStream.ofBody_append, ofBody_append_return hwrites.lineFeed_not_mem,
        ofBody_of_writes hwrites hfirst, ih hrest, ← EventStream.ofLines_cons]

theorem process_streamParser {inputs : Record} {body : String}
    (h : Table.find? inputs "body" = some (.str body)) (calls : Nat) (context : Context) :
    streamParser.process calls inputs context =
      ⟨.ok ((EventStream.ofBody body.toList).toRecord .null), context⟩ := by
  have hrequired : Block.required "stream_parser" inputs "body" = .ok (.str body) := by
    rw [Block.required, h]
  simp only [streamParser, Block.reading, hrequired]
  rfl

/-- **Streams are read line by line, and no event is lost.** A line feed between two texts divides
what is read from them. And every text of a stream, with blanks around what its lines carry, with
either ending of a line and with any lines between that carry nothing, gives exactly the events
that were written, in order, and the fragments of text in them put together. -/
theorem streams_read :
    (∀ a b : String,
      EventStream.ofBody (a ++ "\n" ++ b).toList =
        { events := (EventStream.ofBody a.toList).events ++ (EventStream.ofBody b.toList).events
          content := (EventStream.ofBody a.toList).content ++ (EventStream.ofBody b.toList).content
          complete := (EventStream.ofBody a.toList).complete ||
            (EventStream.ofBody b.toList).complete }) ∧
    ∀ (lines : List Line) (body : String), Renders lines body.toList →
      (∀ v ∈ Line.values lines, Json.parse? v.compact = some v) →
      ∀ (calls : Nat) (inputs : Record) (context : Context),
        Table.find? inputs "body" = some (.str body) →
        ∃ complete : Bool, (complete = true ↔ Line.done ∈ lines) ∧
          streamParser.process calls inputs context = ⟨.ok [
            ("content", .str (String.join ((Line.values lines).filterMap fragment?))),
            ("done", .bool complete),
            ("error", .null),
            ("eventCount", .nat (Line.values lines).length),
            ("events", .arr (Line.values lines))], context⟩ := by
  refine ⟨fun a b => ?_, fun lines body hbody hread calls inputs context hfound => ?_⟩
  · have hsplit : (a ++ "\n" ++ b).toList = a.toList ++ '\n' :: b.toList := by simp
    rw [hsplit]
    exact EventStream.ofBody_append a.toList b.toList
  · refine ⟨lines.any Line.isDone, ?_, ?_⟩
    · simp [Line.isDone_iff]
    · rw [process_streamParser hfound, ofBody_of_renders hbody hread]
      simp only [EventStream.toRecord, EventStream.ofLines, String.ofList_toList]

/-- Two greetings in two conventions, and after each a line that carries nothing. -/
def greetingEvents : List Json := [
  .obj [("delta", .obj [("text", .str "Hel")])],
  .obj [("choices", .arr [.obj [("text", .str "lo")]])]]

def greetingLines : List Line :=
  greetingEvents.flatMap (fun v => [.event v, .other]) ++ [.done]

def greeting : String :=
  "data: \x7b\"delta\":\x7b\"text\":\"Hel\"\x7d\x7d\r\nevent: ping\n" ++
    " data:\x7b\"choices\":[\x7b\"text\":\"lo\"\x7d]\x7d  \n\ndata: [DONE]"

theorem compact_greetingEvents : greetingEvents.map Json.compact =
    ["\x7b\"delta\":\x7b\"text\":\"Hel\"\x7d\x7d",
      "\x7b\"choices\":[\x7b\"text\":\"lo\"\x7d]\x7d"] := by
  simp [greetingEvents, Json.compact, Json.quote, Json.escapeChar]

theorem renders_greeting : Renders greetingLines greeting.toList := by
  have hcompact := compact_greetingEvents
  simp only [greetingEvents, List.map_cons, List.map_nil, List.cons.injEq, and_true] at hcompact
  have hgap : IsGap [' '] ∧ IsGap [' ', ' '] := by simp [IsGap, Text.isBlank]
  have hping : ∀ text, ¬ Carries "event: ping".toList text := by
    intro text h
    obtain ⟨rest, hdrop, -⟩ := dropLeading?_of_carries h
    rw [show Text.dropLeading? "data:".toList (Text.trim "event: ping".toList) = none by decide]
      at hdrop
    cases hdrop
  have hblank : ∀ text, ¬ Carries [] text := by
    intro text h
    obtain ⟨rest, hdrop, -⟩ := dropLeading?_of_carries h
    cases hdrop
  have hfirst : (Line.event (.obj [("delta", .obj [("text", .str "Hel")])])).Writes
      "data: \x7b\"delta\":\x7b\"text\":\"Hel\"\x7d\x7d".toList :=
    ⟨[], [' '], [], isGap_nil, hgap.1, isGap_nil, by rw [hcompact.1]; decide⟩
  have hsecond : (Line.event (.obj [("choices", .arr [.obj [("text", .str "lo")]])])).Writes
      " data:\x7b\"choices\":[\x7b\"text\":\"lo\"\x7d]\x7d  ".toList :=
    ⟨[' '], [], [' ', ' '], hgap.1, isGap_nil, hgap.2, by rw [hcompact.2]; decide⟩
  have hdone : Line.done.Writes "data: [DONE]".toList :=
    ⟨[], [' '], [], isGap_nil, hgap.1, isGap_nil, by decide⟩
  have hother : Line.other.Writes "event: ping".toList := ⟨by decide, .inr hping⟩
  have hempty : Line.other.Writes [] := ⟨by decide, .inr hblank⟩
  exact .returnFeed hfirst (.feed hother (.feed hsecond (.feed hempty (.last hdone))))

theorem greeting_read : Renders greetingLines greeting.toList ∧
    (∀ v ∈ Line.values greetingLines, Json.parse? v.compact = some v) ∧
    streamParser.process 0 [("body", .str greeting)] {} = ⟨.ok [
      ("content", .str "Hello"), ("done", .bool true), ("error", .null), ("eventCount", .nat 2),
      ("events", .arr greetingEvents)], {}⟩ := by
  have hread : ∀ v ∈ Line.values greetingLines, Json.parse? v.compact = some v := by
    have hfield : ∀ {depth key v}, Json.Readable depth v →
        Json.Readable (depth + 1) (.obj [(key, v)]) := fun h =>
      .obj (List.pairwise_singleton _ _) (List.forall_mem_singleton.mpr h)
    have hreadable : ∀ v ∈ greetingEvents, v.Readable Written.maxDepth := by
      rw [greetingEvents, List.forall_mem_cons, List.forall_mem_singleton]
      exact ⟨hfield (hfield .str), hfield (.arr (List.forall_mem_singleton.mpr (hfield .str)))⟩
    exact fun v hv => Json.parse?_compact (hreadable v hv)
  obtain ⟨complete, hcomplete, hprocess⟩ :=
    streams_read.2 greetingLines greeting renders_greeting hread 0 [("body", .str greeting)] {} rfl
  obtain rfl : complete = true := hcomplete.mpr (by simp [greetingLines])
  refine ⟨renders_greeting, hread, ?_⟩
  rw [hprocess]
  rfl

end StepPipeline.Blocks
