import LogRelay.Collector.Record
import LogRelay.Proofs.Framing.Timeline
import LogRelay.Proofs.Json.Reading
import LogRelay.Proofs.Text.Segments
import Mathlib.Data.List.Sort

/-!
# Putting lines together again

A collector takes the text of a whole line from its record, and the text of a
split line from the records of its run, in the order of their ordinals.  Each
record holds the text of its own bytes, so a line comes back as it was exactly
if it was cut between characters.
-/

namespace LogRelay

namespace JsonValue

/-- The first member with that key. -/
def member? (key : String) : JsonValue → Option JsonValue
  | object members => (members.find? fun member => member.1 = some key).map (·.2)
  | _ => none

def text? : JsonValue → Option String
  | string text => text
  | _ => none

def truth? : JsonValue → Option Bool
  | truth value => some value
  | _ => none

/-- A number that is written with digits only. -/
def whole? : JsonValue → Option Nat
  | number ⟨false, digits, none, none⟩ => some (Text.digitsValue digits)
  | _ => none

theorem whole?_ofNat (value : Nat) : (number (JsonNumber.ofNat value)).whole? = some value := by
  rw [JsonNumber.ofNat, whole?, JsonReader.digitsValue_toDigits]

end JsonValue

namespace Rejoining

/-- What a record says about the run of a segment.  The ordinal is any number. -/
structure Tag where
  id : String
  ordinal : Nat
  last : Bool

/-- What a record says about a line or a segment of one. -/
structure Piece where
  log : String
  tag : Option Tag

def readTag? (value : JsonValue) : Option Tag := do
  let id ← (← value.member? "id").text?
  let ordinal ← (← value.member? "ordinal").whole?
  let last ← (← value.member? "last").truth?
  return ⟨id, ordinal, last⟩

def readRecord? (record : JsonValue) : Option Piece := do
  let log ← (← record.member? "log").text?
  match record.member? "partial_message" with
  | some value => return ⟨log, some (← readTag? value)⟩
  | none => return ⟨log, none⟩

/-- A segment of a run that has not ended, with its tag. -/
abbrev Waiting := List (Tag × String)

/-- The logs in the order of their ordinals. -/
def join (run : Waiting) : String :=
  String.join ((run.insertionSort fun left right => left.1.ordinal ≤ right.1.ordinal).map (·.2))

/-- The texts that a piece completes.  The last segment of a run completes it
with all segments that share its identifier. -/
def accept (waiting : Waiting) (piece : Piece) : Waiting × List String :=
  match piece.tag with
  | none => (waiting, [piece.log])
  | some tag =>
    let waiting := waiting ++ [(tag, piece.log)]
    if tag.last then
      (waiting.filter (·.1.id ≠ tag.id), [join (waiting.filter (·.1.id = tag.id))])
    else (waiting, [])

def rejoinFrom (waiting : Waiting) : List Piece → List String
  | [] => []
  | piece :: rest =>
    (accept waiting piece).2 ++ rejoinFrom (accept waiting piece).1 rest

/-- The texts of the lines that the records make, in the order in which they are
completed. -/
def rejoin (records : List JsonValue) : List String :=
  rejoinFrom [] (records.filterMap readRecord?)

/-! ## Records -/

def tagOf (tag : Partial) : Tag :=
  ⟨tag.id, tag.ordinal.toNat, tag.last⟩

/-- What the record of the message says. -/
def pieceOf (message : Message) : Piece :=
  ⟨message.lossyText, message.partialTag.map tagOf⟩

theorem readTag?_partialObject (tag : Partial) :
    readTag? (Record.partialObject tag) = some (tagOf tag) := by
  simp [readTag?, tagOf, Record.partialObject, Record.stringMember, JsonValue.member?,
    JsonValue.text?, JsonValue.truth?, JsonValue.whole?_ofNat]

theorem readRecord?_object (identity : Identity) (message : Message) :
    readRecord? (Record.object identity message) = some (pieceOf message) := by
  cases htag : message.partialTag with
  | none =>
      simp [readRecord?, Record.object, Record.partialMembers, Record.stringMember, htag,
        JsonValue.member?, JsonValue.text?, pieceOf]
  | some tag =>
      simp [readRecord?, Record.object, Record.partialMembers, Record.stringMember, htag,
        JsonValue.member?, JsonValue.text?, readTag?_partialObject, pieceOf]

theorem rejoin_object (identity : Identity) (messages : List Message) :
    rejoin (messages.map (Record.object identity)) = rejoinFrom [] (messages.map pieceOf) := by
  rw [rejoin, List.filterMap_map, ← List.filterMap_eq_map]
  congr 1
  apply List.filterMap_congr
  intro message _
  exact readRecord?_object identity message

/-! ## Runs -/

/-- Segments that do not end their run wait. -/
theorem rejoinFrom_append_open {segments : Waiting}
    (hopen : ∀ segment ∈ segments, segment.1.last = false) (waiting : Waiting)
    (rest : List Piece) :
    rejoinFrom waiting ((segments.map fun segment => ⟨segment.2, some segment.1⟩) ++ rest) =
      rejoinFrom (waiting ++ segments) rest := by
  induction segments generalizing waiting with
  | nil => simp
  | cons segment segments ih =>
      have hfirst := hopen segment List.mem_cons_self
      have hrest := ih fun other hother => hopen other (List.mem_cons_of_mem _ hother)
      rw [List.map_cons, List.cons_append, rejoinFrom]
      simp only [accept, hfirst, Bool.false_eq_true, if_false, List.nil_append]
      rw [hrest, List.append_assoc, List.singleton_append]

/-- The last segment completes a run whose segments have come in order. -/
theorem rejoinFrom_cons_last {waiting : Waiting} {tag : Tag} (log : String)
    (hlast : tag.last = true) (hid : ∀ segment ∈ waiting, segment.1.id = tag.id)
    (hordered : (waiting ++ [(tag, log)]).Pairwise
      fun left right => left.1.ordinal ≤ right.1.ordinal) (rest : List Piece) :
    rejoinFrom waiting (⟨log, some tag⟩ :: rest) =
      String.join (waiting.map (·.2) ++ [log]) :: rejoinFrom [] rest := by
  have hsame : ∀ segment ∈ waiting ++ [(tag, log)], segment.1.id = tag.id := by
    intro segment hsegment
    rcases List.mem_append.mp hsegment with hbefore | hnew
    · exact hid segment hbefore
    · rw [List.mem_singleton.mp hnew]
  have hall : (waiting ++ [(tag, log)]).filter (·.1.id = tag.id) = waiting ++ [(tag, log)] := by
    apply List.filter_eq_self.mpr
    intro segment hsegment
    simpa using hsame segment hsegment
  have hnone : (waiting ++ [(tag, log)]).filter (·.1.id ≠ tag.id) = [] := by
    apply List.filter_eq_nil_iff.mpr
    intro segment hsegment
    simpa using hsame segment hsegment
  rw [rejoinFrom]
  simp only [accept, hlast, if_true]
  rw [hall, hnone, join, hordered.insertionSort_eq]
  simp

/-! ## Frames -/

variable {ids : Nat → String} {capacity : Nat}

def placeTag (ids : Nat → String) (place : Place) : Tag :=
  ⟨ids place.run, place.ordinal, place.last⟩

/-- What the record of a message that shows the frame says. -/
def pieceOfFrame (ids : Nat → String) (frame : Frame) : Piece :=
  ⟨Utf8.decodeLossy frame.line, frame.place.map (placeTag ids)⟩

theorem map_tagOf_eq {source : Source} {times : List Timestamp} {frame : Frame}
    {message : Message} (hshows : Frame.ShowsExactly source ids times frame message) :
    message.partialTag.map tagOf = frame.place.map (placeTag ids) := by
  have hordinal := hshows.ordinal_eq
  rw [hshows.tag_eq] at hordinal ⊢
  cases hplace : frame.place with
  | none => rfl
  | some place =>
      rw [hplace] at hordinal
      have heq := hordinal place rfl _ rfl
      simp only [Option.map_some, tagOf, placeTag]
      rw [heq]

theorem map_pieceOf_eq {source : Source} {times : List Timestamp} {frames : List Frame}
    {messages : List Message} (hshows : Frame.ShowsAllExactly source ids times frames messages) :
    messages.map pieceOf = frames.map (pieceOfFrame ids) := by
  induction hshows with
  | nil => rfl
  | @cons frame message frames messages hfirst hrest ih =>
      rw [List.map_cons, List.map_cons, ih]
      congr 1
      rw [pieceOf, pieceOfFrame, Message.lossyText, hfirst.line_eq, map_tagOf_eq hfirst]

/-- The segments of a split line without the last one, as they wait. -/
def waitingSegments (ids : Nat → String) (capacity run : Nat) (line : Bytes) : Waiting :=
  (List.range (line.length / capacity)).map fun before =>
    (⟨ids run, before + 1, false⟩, Utf8.decodeLossy ((line.drop (before * capacity)).take capacity))

theorem map_pieceOfFrame_fullSegments (ids : Nat → String) (capacity run : Nat) (line : Bytes) :
    (Frame.fullSegments capacity run line).map (pieceOfFrame ids) =
      (waitingSegments ids capacity run line).map fun segment => ⟨segment.2, some segment.1⟩ := by
  rw [Frame.fullSegments, waitingSegments, List.map_map, List.map_map]
  rfl

/-- The text that the collector makes of a line. -/
def rejoined (capacity : Nat) (line : Bytes) : String :=
  String.ofList (Utf8.shown capacity line)

theorem rejoinFrom_split (ids : Nat → String) (capacity run : Nat) (line : Bytes)
    (rest : List Piece) :
    rejoinFrom [] ((Frame.split capacity run line).map (pieceOfFrame ids) ++ rest) =
      rejoined capacity line :: rejoinFrom [] rest := by
  have hopen : ∀ segment ∈ waitingSegments ids capacity run line, segment.1.last = false := by
    intro segment hsegment
    obtain ⟨before, -, rfl⟩ := List.mem_map.mp hsegment
    rfl
  have hid : ∀ segment ∈ waitingSegments ids capacity run line, segment.1.id = ids run := by
    intro segment hsegment
    obtain ⟨before, -, rfl⟩ := List.mem_map.mp hsegment
    rfl
  have hordered : (waitingSegments ids capacity run line ++
      [((⟨ids run, line.length / capacity + 1, true⟩ : Tag),
        Utf8.decodeLossy (line.drop (line.length / capacity * capacity)))]).Pairwise
      fun left right => left.1.ordinal ≤ right.1.ordinal := by
    refine List.pairwise_append.mpr ⟨?_, List.pairwise_singleton _ _, ?_⟩
    · rw [waitingSegments, List.pairwise_map]
      exact List.pairwise_lt_range.imp fun hlt => Nat.succ_le_succ (Nat.le_of_lt hlt)
    · intro segment hsegment last hlast
      obtain ⟨before, hbefore, rfl⟩ := List.mem_map.mp hsegment
      rw [List.mem_singleton.mp hlast]
      exact Nat.succ_le_succ (Nat.le_of_lt (List.mem_range.mp hbefore))
  have hlogs : String.join ((waitingSegments ids capacity run line).map (·.2) ++
      [Utf8.decodeLossy (line.drop (line.length / capacity * capacity))]) =
      rejoined capacity line := by
    apply String.toList_injective
    rw [String.toList_join, rejoined, String.toList_ofList, Utf8.shown, Utf8.segments,
      List.flatMap_append, List.flatMap_append, waitingSegments]
    simp only [List.map_map, List.flatMap_map, List.flatMap_singleton, Function.comp_def,
      Utf8.decodeLossy, String.toList_ofList]
  rw [Frame.split, List.map_append, List.append_assoc, map_pieceOfFrame_fullSegments,
    rejoinFrom_append_open hopen, List.nil_append]
  apply (rejoinFrom_cons_last _ rfl hid hordered rest).trans
  rw [hlogs]

theorem rejoinFrom_ofLine (ids : Nat → String) (capacity run : Nat) (line : Bytes)
    (rest : List Piece) :
    rejoinFrom [] ((Frame.ofLine capacity run line).map (pieceOfFrame ids) ++ rest) =
      ([line].filter (· ≠ [])).map (rejoined capacity) ++ rejoinFrom [] rest := by
  rw [Frame.ofLine]
  split
  · next hempty => simp [hempty]
  · next hline =>
      split
      · next hshort =>
          have hshown : rejoined capacity line = Utf8.decodeLossy line := by
            rw [rejoined, Utf8.shown_of_lt hshort, Utf8.decodeLossy]
          simp [rejoinFrom, accept, pieceOfFrame, hline, hshown]
      · rw [rejoinFrom_split]
        simp [hline]

theorem rejoinFrom_ofLines (ids : Nat → String) (capacity run : Nat) (lines : List Bytes)
    (rest : List Piece) :
    rejoinFrom [] ((Frame.ofLines capacity run lines).map (pieceOfFrame ids) ++ rest) =
      (lines.filter (· ≠ [])).map (rejoined capacity) ++ rejoinFrom [] rest := by
  induction lines generalizing run with
  | nil => rfl
  | cons line lines ih =>
      rw [Frame.ofLines, List.map_append, List.append_assoc, rejoinFrom_ofLine, ih,
        ← List.append_assoc, ← List.map_append, ← List.filter_append, List.singleton_append]

/-- Every line that is not empty comes back, in order. -/
theorem rejoinFrom_canonical (ids : Nat → String) (capacity : Nat) (content : Bytes) :
    rejoinFrom [] ((Frame.canonical capacity content).map (pieceOfFrame ids)) =
      (Lines.nonEmpty content).map (rejoined capacity) := by
  have hrest : rejoinFrom [] ((Frame.ofRest capacity (Frame.nextRun capacity content)
      (Lines.unfinished content)).map (pieceOfFrame ids)) =
      ([Lines.unfinished content].filter (· ≠ [])).map (rejoined capacity) := by
    rw [Frame.ofRest]
    split
    · next hempty => simp [hempty, rejoinFrom]
    · next hline =>
        have hsplit := rejoinFrom_split ids capacity (Frame.nextRun capacity content)
          (Lines.unfinished content) []
        rw [List.append_nil] at hsplit
        rw [hsplit]
        simp [hline, rejoinFrom]
  rw [Frame.canonical, List.map_append, rejoinFrom_ofLines, hrest, Lines.nonEmpty,
    List.filter_append, List.map_append]

/-! ## Lines -/

theorem rejoined_eq_iff {line : Bytes} (hcapacity : 0 < capacity)
    (hvalid : Utf8.isValid line = true) :
    some (rejoined capacity line) = Utf8.decode? line ↔
      Utf8.CutsBetweenCharacters capacity line := by
  rw [← Utf8.shown_eq_iff hcapacity hvalid, Utf8.decode?, if_pos hvalid, Option.some_inj,
    rejoined, Utf8.decodeLossy]
  exact String.ofList_inj

/-- The collector gets back the lines of a pipe that brings UTF-8 exactly if none
of them is cut within a character, at a multiple of the size of the buffer.  No line has
more segments than can be numbered. -/
theorem rejoin_eq_lines_iff (world : FramerTimeline.World) (source : Source)
    (bufferSize readLimit clock : Nat) (pipe : PipeScript) (asked : List Nat) (tracer : Tracer)
    (identity : Identity) (hsteady : pipe.isSteady)
    (hpatience : pipe.endsBy clock ≤ clock + world.patienceMs)
    (hvalid : Utf8.isValid pipe.content = true)
    (hfew : Frame.HasFewSegments (max bufferSize 1) pipe.content) :
    ∃ messages : List Message,
      (FramerTimeline.drain world ⟨Framer.create source bufferSize readLimit, pipe, clock,
        false, asked, tracer⟩).2 = messages.map FramerTimeline.Answer.message ++ [.finished] ∧
      ((rejoin (messages.map (Record.object identity))).map some =
          (Lines.nonEmpty pipe.content).map Utf8.decode? ↔
        ∀ line ∈ Lines.nonEmpty pipe.content,
          Utf8.CutsBetweenCharacters (max bufferSize 1) line) := by
  obtain ⟨messages, times, hanswers, hshows⟩ := FramerTimeline.drain_of_onTheWay
    (FramerTimeline.onTheWay_create world source bufferSize readLimit clock asked tracer hsteady)
    hpatience
  rw [List.nil_append] at hshows
  have hexactly := hshows.exactly_of_few hfew (List.Subset.refl _)
  refine ⟨messages, hanswers, ?_⟩
  rw [rejoin_object, map_pieceOf_eq hexactly, rejoinFrom_canonical, List.map_map]
  have hlines : ∀ line ∈ Lines.nonEmpty pipe.content,
      (some (rejoined (max bufferSize 1) line) = Utf8.decode? line ↔
        Utf8.CutsBetweenCharacters (max bufferSize 1) line) := fun line hline =>
    rejoined_eq_iff (Nat.lt_of_lt_of_le Nat.one_pos (Nat.le_max_right _ _))
      (Utf8.isValid_of_mem_nonEmpty hvalid hline)
  rw [List.map_inj_left]
  exact forall₂_congr hlines

/-- A line of the size of the buffer that ends with a character of two bytes. -/
theorem rejoin_eq_lines_of_full_buffer :
    let world : FramerTimeline.World := ⟨RunId.ofBits, fun _ => default, 0⟩
    let pipe : PipeScript := [.data [97, 195], .data [169, 10]]
    pipe.isSteady = true ∧ pipe.endsBy 0 ≤ 0 + world.patienceMs ∧
      Utf8.isValid pipe.content = true ∧ Frame.HasFewSegments (max 3 1) pipe.content ∧
      ∃ messages : List Message,
        (FramerTimeline.drain world
          ⟨Framer.create .stdout 3 2, pipe, 0, false, [], default⟩).2 =
            messages.map FramerTimeline.Answer.message ++ [.finished] ∧
        (rejoin (messages.map (Record.object default))).map some =
          (Lines.nonEmpty pipe.content).map Utf8.decode? := by
  intro world pipe
  have hsteady : pipe.isSteady = true := by decide
  have hpatience : pipe.endsBy 0 ≤ 0 + world.patienceMs := by decide
  have hvalid : Utf8.isValid pipe.content = true := by decide
  have hfew : Frame.HasFewSegments (max 3 1) pipe.content := by decide
  have hlines : Lines.nonEmpty pipe.content = [[97, 195, 169]] := by decide
  obtain ⟨messages, hanswers, hrejoin⟩ :=
    rejoin_eq_lines_iff world .stdout 3 2 0 pipe [] default default hsteady hpatience hvalid hfew
  refine ⟨hsteady, hpatience, hvalid, hfew, messages, hanswers, hrejoin.mpr ?_⟩
  intro line hline
  rw [hlines, List.mem_singleton] at hline
  intro before byte hbyte
  have hindex := (List.getElem?_eq_some_iff.mp hbyte).1
  have hbefore : before = 0 := by
    have hsize : max 3 1 = 3 := rfl
    rw [hline, hsize] at hindex
    simp only [List.length_cons, List.length_nil] at hindex
    omega
  rw [hline, hbefore] at hbyte
  rw [← Option.some.inj hbyte]
  rfl

/-- With one byte less of room the same line is cut within its last character,
and each half of it comes back as a replacement. -/
theorem rejoin_ne_lines_of_cut_character :
    ∃ messages : List Message,
      (FramerTimeline.drain ⟨RunId.ofBits, fun _ => default, 0⟩
        ⟨Framer.create .stdout 2 1, [.data [97, 195, 169, 10]], 0, false, [], default⟩).2 =
          messages.map FramerTimeline.Answer.message ++ [.finished] ∧
      rejoin (messages.map (Record.object default)) = ["a\ufffd\ufffd"] ∧
      (Lines.nonEmpty [97, 195, 169, 10]).map Utf8.decode? = [some "aé"] ∧
      (rejoin (messages.map (Record.object default))).map some ≠
        (Lines.nonEmpty [97, 195, 169, 10]).map Utf8.decode? := by
  refine ⟨[⟨[97, 195], .stdout, default, some ⟨RunId.ofBits 0, 1, false⟩⟩,
    ⟨[169], .stdout, default, some ⟨RunId.ofBits 0, 2, true⟩⟩], rfl, ?_⟩
  have hrejoin : rejoin ([⟨[97, 195], .stdout, default, some ⟨RunId.ofBits 0, 1, false⟩⟩,
      ⟨[169], .stdout, default, some ⟨RunId.ofBits 0, 2, true⟩⟩].map (Record.object default)) =
      ["a\ufffd\ufffd"] := by
    decide +kernel
  have hlines : (Lines.nonEmpty [97, 195, 169, 10]).map Utf8.decode? = [some "aé"] := by
    decide +kernel
  refine ⟨hrejoin, hlines, ?_⟩
  rw [hrejoin, hlines]
  decide +kernel

end Rejoining

end LogRelay
