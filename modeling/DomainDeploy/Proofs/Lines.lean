import Mathlib.Logic.Relation
import DomainDeploy.Proofs.Encoding
import DomainDeploy.Submission

/-!
# Lines of the tool

Which lines a stream of bytes holds is told here piece by piece (`StartsWith`, `AreLinesOf`): every
piece has an end, but for the last one, and a piece that is no text is the end of the lines. While
the tool runs, each of its two streams has a reader, and a reader that has taken a line adds it to
what both have collected (`Readers.Step`).

The readers lose no line, invent none, and keep the lines of a stream in their order, however they
take turns: what they have collected in the end is an interleaving of the lines of the two streams,
and every interleaving can come about (`Readers.canCollect_iff`). The same is kept of a run of the
tool (`runTool_keepsLines`).
-/

namespace DomainDeploy.ToolOutput

open Text.Utf8

variable {stream rest piece : List UInt8} {text : String} {lines : List String}

/-! ### Pieces -/

/-- The first piece of a stream and what stands behind it. A piece ends in a line feed, or in a
carriage return and a line feed, which are not part of it; the last one may have no end. -/
inductive StartsWith : List UInt8 → List UInt8 → List UInt8 → Prop
  | feed {piece rest : List UInt8} (whole : 10 ∉ piece) (plain : piece.getLast? ≠ some 13) :
      StartsWith (piece ++ 10 :: rest) piece rest
  | returnFeed {piece rest : List UInt8} (whole : 10 ∉ piece) :
      StartsWith (piece ++ 13 :: 10 :: rest) piece rest
  | unended {piece : List UInt8} (whole : 10 ∉ piece) (nonempty : piece ≠ []) :
      StartsWith piece piece []

theorem dropReturn_of_plain (plain : piece.getLast? ≠ some 13) : dropReturn piece = piece := by
  rw [dropReturn, if_neg (by simpa using plain)]

theorem dropReturn_append (piece : List UInt8) : dropReturn (piece ++ [13]) = piece := by
  simp [dropReturn]

theorem pieces_append_feed (whole : 10 ∉ piece) (rest : List UInt8) :
    pieces (piece ++ 10 :: rest) = dropReturn piece :: pieces rest := by
  have split : (piece ++ 10 :: rest).splitOn 10 = piece :: rest.splitOn 10 :=
    List.splitOn_append_cons_self_of_not_mem whole rest
  obtain ⟨next, others, hnext⟩ := List.exists_cons_of_ne_nil (List.splitOn_ne_nil 10 rest)
  simp [pieces, split, hnext]

theorem pieces_of_startsWith (h : StartsWith stream piece rest) :
    pieces stream = piece :: pieces rest := by
  cases h with
  | feed whole plain => rw [pieces_append_feed whole, dropReturn_of_plain plain]
  | returnFeed whole =>
      rw [List.append_cons, pieces_append_feed (by simp [whole]), dropReturn_append]
  | unended whole nonempty =>
      simp [pieces, List.splitOn_eq_singleton whole, nonempty]

/-- A stream that does not end here has a first piece. -/
theorem exists_startsWith (nonempty : stream ≠ []) :
    ∃ piece rest, StartsWith stream piece rest ∧ rest.length < stream.length := by
  by_cases feed : 10 ∈ stream
  · obtain ⟨front, rest, rfl, whole⟩ := List.eq_append_cons_of_mem feed
    by_cases plain : front.getLast? = some 13
    · obtain ⟨piece, rfl⟩ := List.getLast?_eq_some_iff.1 plain
      rw [← List.append_cons]
      refine ⟨piece, rest, .returnFeed fun h => whole (by simp [h]), by simp; omega⟩
    · exact ⟨front, rest, .feed whole plain, by simp; omega⟩
  · exact ⟨stream, [], .unended feed nonempty, List.length_pos_iff.2 nonempty⟩

/-! ### Lines -/

/-- The lines of a stream: its pieces, read as texts, up to the first one that is no text. -/
inductive AreLinesOf : List String → List UInt8 → Prop
  | ended : AreLinesOf [] []
  | garbled {stream piece rest : List UInt8} (first : StartsWith stream piece rest)
      (noText : ∀ text, piece ≠ encode text) : AreLinesOf [] stream
  | read {stream rest : List UInt8} {text : String} {lines : List String}
      (first : StartsWith stream (encode text) rest) (later : AreLinesOf lines rest) :
      AreLinesOf (text :: lines) stream

theorem linesOf_of_text (h : StartsWith stream (encode text) rest) :
    linesOf stream = text :: linesOf rest := by
  rw [linesOf, pieces_of_startsWith h, readable, decode?_encode]
  rfl

theorem linesOf_of_noText (h : StartsWith stream piece rest)
    (noText : ∀ text, piece ≠ encode text) : linesOf stream = [] := by
  have unread : decode? piece = none :=
    Option.eq_none_iff_forall_ne_some.2 fun text htext => noText text (decode?_eq_some_iff.1 htext)
  rw [linesOf, pieces_of_startsWith h, readable, unread]

theorem linesOf_eq_cons_iff : linesOf stream = text :: lines ↔
    ∃ rest, StartsWith stream (encode text) rest ∧ linesOf rest = lines := by
  constructor
  · intro h
    have nonempty : stream ≠ [] := by
      rintro rfl
      cases h
    obtain ⟨piece, rest, first, -⟩ := exists_startsWith nonempty
    by_cases isText : ∃ text', piece = encode text'
    · obtain ⟨text', rfl⟩ := isText
      rw [linesOf_of_text first] at h
      obtain ⟨rfl, rfl⟩ := List.cons.inj h
      exact ⟨rest, first, rfl⟩
    · rw [linesOf_of_noText first (not_exists.1 isText)] at h
      cases h
  · rintro ⟨rest, first, rfl⟩
    exact linesOf_of_text first

theorem areLinesOf_linesOf (stream : List UInt8) : AreLinesOf (linesOf stream) stream := by
  by_cases empty : stream = []
  · rw [empty]
    exact .ended
  · obtain ⟨piece, rest, first, shorter⟩ := exists_startsWith empty
    by_cases isText : ∃ text, piece = encode text
    · obtain ⟨text, rfl⟩ := isText
      rw [linesOf_of_text first]
      exact .read first (areLinesOf_linesOf rest)
    · have noText := not_exists.1 isText
      rw [linesOf_of_noText first noText]
      exact .garbled first noText
termination_by stream.length

/-- What is read of a stream are its lines. -/
theorem areLinesOf_iff : AreLinesOf lines stream ↔ lines = linesOf stream := by
  constructor
  · intro h
    induction h with
    | ended => rfl
    | garbled first noText => rw [linesOf_of_noText first noText]
    | read first later ih => rw [linesOf_of_text first, ih]
  · rintro rfl
    exact areLinesOf_linesOf stream

/-! ### Lines that were written -/

/-- A line as it is written, with a carriage return or without. -/
def written (line : String × Bool) : List UInt8 :=
  encode line.1 ++ if line.2 then [13, 10] else [10]

theorem startsWith_written {line : String × Bool} (whole : '\n' ∉ line.1.toList)
    (plain : line.1.toList.getLast? ≠ some '\r') (rest : List UInt8) :
    StartsWith (written line ++ rest) (encode line.1) rest := by
  have whole' : 10 ∉ encode line.1 := fun h => whole (mem_of_mem_encode (by decide) h)
  rw [written, List.append_assoc]
  split
  · exact .returnFeed whole'
  · exact .feed whole' fun h => plain (getLast?_of_getLast?_encode (by decide) h)

/-- Lines that were written one behind the other are read back. -/
theorem linesOf_written {lines : List (String × Bool)}
    (h : ∀ line ∈ lines, '\n' ∉ line.1.toList ∧ line.1.toList.getLast? ≠ some '\r') :
    linesOf (lines.flatMap written) = lines.map Prod.fst := by
  induction lines with
  | nil => rfl
  | cons line lines ih =>
      obtain ⟨⟨whole, plain⟩, later⟩ := List.forall_mem_cons.1 h
      rw [List.flatMap_cons, linesOf_of_text (startsWith_written whole plain _), ih later,
        List.map_cons]

/-! ### Two streams -/

/-- One list holds exactly what two lists hold, and what each of them holds in its order. -/
inductive Interleaved {α : Type} : List α → List α → List α → Prop
  | nil : Interleaved [] [] []
  | left {a : α} {first second both : List α} (h : Interleaved first second both) :
      Interleaved (a :: first) second (a :: both)
  | right {a : α} {first second both : List α} (h : Interleaved first second both) :
      Interleaved first (a :: second) (a :: both)

theorem interleaved_append {α : Type} (first second : List α) :
    Interleaved first second (first ++ second) := by
  induction first with
  | nil =>
      induction second with
      | nil => exact .nil
      | cons a second ih => exact .right ih
  | cons a first ih => exact .left ih

theorem interleaved_merge {α : Type} (order : List Bool) (first second : List α) :
    Interleaved first second (merge order first second) := by
  fun_induction merge order first second with
  | case1 order a first second ih => exact .left ih
  | case2 order first a second ih => exact .right ih
  | case3 order second ih => exact ih
  | case4 order first ih => exact ih
  | case5 first second => exact interleaved_append first second

/-- Every way to take turns is told by some order. -/
theorem Interleaved.exists_merge {α : Type} {first second both : List α}
    (h : Interleaved first second both) : ∃ order, merge order first second = both := by
  induction h with
  | nil => exact ⟨[], rfl⟩
  | left h ih =>
      obtain ⟨order, rfl⟩ := ih
      exact ⟨true :: order, by rw [merge]⟩
  | right h ih =>
      obtain ⟨order, rfl⟩ := ih
      exact ⟨false :: order, by rw [merge]⟩

/-- Two readers at work: what is left of their streams, and what both have collected. -/
structure Readers where
  stdout : List UInt8
  stderr : List UInt8
  collected : List String

namespace Readers

variable {r r' : Readers}

/-- One of the readers takes a line. A reader before a piece that is no text, or before the end of
its stream, takes none any more. -/
inductive Step : Readers → Readers → Prop
  | stdout {stdout stderr rest : List UInt8} {collected : List String} {text : String}
      (first : StartsWith stdout (encode text) rest) :
      Step ⟨stdout, stderr, collected⟩ ⟨rest, stderr, collected ++ [text]⟩
  | stderr {stdout stderr rest : List UInt8} {collected : List String} {text : String}
      (first : StartsWith stderr (encode text) rest) :
      Step ⟨stdout, stderr, collected⟩ ⟨stdout, rest, collected ++ [text]⟩

/-- The readers may go on until they have collected `sink` and take no line any more. -/
def CanCollect (r : Readers) (sink : List String) : Prop :=
  ∃ last, Relation.ReflTransGen Step r last ∧ (∀ next, ¬ last.Step next) ∧ last.collected = sink

/-- What is still to come of the readers: their streams' lines, in some order, behind what they have
collected. -/
def Leaves (r : Readers) (sink : List String) : Prop :=
  ∃ lines, Interleaved (linesOf r.stdout) (linesOf r.stderr) lines ∧ sink = r.collected ++ lines

theorem Leaves.of_step {sink : List String} (h : r.Step r') (later : r'.Leaves sink) :
    r.Leaves sink := by
  obtain ⟨lines, hlines, rfl⟩ := later
  cases h with
  | stdout first =>
      refine ⟨_ :: lines, ?_, List.append_assoc ..⟩
      rw [linesOf_of_text first]
      exact .left hlines
  | stderr first =>
      refine ⟨_ :: lines, ?_, List.append_assoc ..⟩
      rw [linesOf_of_text first]
      exact .right hlines

/-- Readers that take no line any more have nothing left to take. -/
theorem leaves_of_end (h : ∀ next, ¬ r.Step next) : r.Leaves r.collected := by
  have none {stream : List UInt8} (ended : ∀ text rest, ¬ StartsWith stream (encode text) rest) :
      linesOf stream = [] := by
    cases hlines : linesOf stream with
    | nil => rfl
    | cons text lines =>
        obtain ⟨rest, first, -⟩ := linesOf_eq_cons_iff.1 hlines
        exact (ended text rest first).elim
  refine ⟨[], ?_, (List.append_nil _).symm⟩
  rw [none fun text rest first => h _ (.stdout first),
    none fun text rest first => h _ (.stderr first)]
  exact .nil

/-- Whatever is still to come does come about if the readers take turns accordingly. -/
theorem canCollect_of_interleaved {first second lines : List String}
    (h : Interleaved first second lines) (hout : linesOf r.stdout = first)
    (herr : linesOf r.stderr = second) : r.CanCollect (r.collected ++ lines) := by
  induction h generalizing r with
  | nil =>
      refine ⟨r, .refl, fun next step => ?_, (List.append_nil _).symm⟩
      cases step with
      | stdout first => simp [linesOf_of_text first] at hout
      | stderr first => simp [linesOf_of_text first] at herr
  | @left text _ _ lines h ih =>
      obtain ⟨rest, hfirst, hrest⟩ := linesOf_eq_cons_iff.1 hout
      obtain ⟨last, run, ended, hlast⟩ :=
        ih (r := ⟨rest, r.stderr, r.collected ++ [text]⟩) hrest herr
      exact ⟨last, .head (.stdout hfirst) run, ended, by rw [hlast, List.append_assoc]; rfl⟩
  | @right text _ _ lines h ih =>
      obtain ⟨rest, hfirst, hrest⟩ := linesOf_eq_cons_iff.1 herr
      obtain ⟨last, run, ended, hlast⟩ :=
        ih (r := ⟨r.stdout, rest, r.collected ++ [text]⟩) hout hrest
      exact ⟨last, .head (.stderr hfirst) run, ended, by rw [hlast, List.append_assoc]; rfl⟩

/-- However the readers take turns, they collect the lines of both streams, each in its order, and
every way to take turns can come about. -/
theorem canCollect_iff {sink : List String} : r.CanCollect sink ↔ r.Leaves sink := by
  constructor
  · rintro ⟨last, run, ended, rfl⟩
    induction run using Relation.ReflTransGen.head_induction_on with
    | refl => exact leaves_of_end ended
    | head step later ih => exact .of_step step ih
  · rintro ⟨lines, hlines, rfl⟩
    exact canCollect_of_interleaved hlines rfl rfl

end Readers

/-! ### A run of the tool -/

variable {σ : Type}

/-- A run of the tool that ends keeps the lines of both streams, each in its order. Every way in
which the two readers take turns is one in which such a run may end. -/
theorem runTool_keepsLines (w : Program.Responder Outside σ) (s : σ) (command : ToolCommand)
    (timeout : Nat) (status : Option Int) (stdout stderr : List UInt8) (order : List Bool)
    (exits : (w (.runTool command timeout) s).1 = .exited status stdout stderr order) :
    (∃ output out err,
      ((Submission.runTool command timeout).run.run w s).value = .ok output ∧
      output.status = status ∧ AreLinesOf out stdout ∧ AreLinesOf err stderr ∧
      Interleaved out err output.lines) ∧
    (∀ sink, (Readers.mk stdout stderr []).CanCollect sink ↔
      ∃ order', collect status stdout stderr order' = ⟨status, sink⟩) ∧
    (∀ stream, ∃! lines, AreLinesOf lines stream) ∧
    ∀ lines : List (String × Bool),
      (∀ line ∈ lines, '\n' ∉ line.1.toList ∧ line.1.toList.getLast? ≠ some '\r') →
        AreLinesOf (lines.map Prod.fst) (lines.flatMap written) := by
  refine ⟨⟨collect status stdout stderr order, linesOf stdout, linesOf stderr, ?_, rfl,
    areLinesOf_linesOf stdout, areLinesOf_linesOf stderr, interleaved_merge ..⟩, fun sink => ?_,
    fun stream => ⟨linesOf stream, areLinesOf_linesOf stream, fun lines h => areLinesOf_iff.1 h⟩,
    fun lines h => areLinesOf_iff.2 (linesOf_written h).symm⟩
  · have ended : ((Submission.runTool command timeout).run.run w s).value =
        Submission.outputOf command.program timeout (w (.runTool command timeout) s).1 := rfl
    rw [ended, exits]
    rfl
  · rw [Readers.canCollect_iff]
    constructor
    · rintro ⟨lines, hlines, rfl⟩
      obtain ⟨order', rfl⟩ := hlines.exists_merge
      exact ⟨order', rfl⟩
    · rintro ⟨order', h⟩
      obtain rfl : merge order' (linesOf stdout) (linesOf stderr) = sink :=
        congrArg ToolOutput.lines h
      exact ⟨_, interleaved_merge .., rfl⟩

/-- Surroundings in which the tool prints two streams and the second is read first. -/
def printing (stdout stderr : List UInt8) : Program.Responder Outside Unit
  | .runTool _ _, s => (.exited (some 3) stdout stderr [false], s)
  | .connect, s => (.ok (), s)
  | .call _, s => (.error .cancelled, s)
  | .disconnect, s => (.ok (), s)
  | .sleep _, s => (true, s)

/-- A tool that writes one line to each stream, the first with a carriage return. -/
theorem runTool_keepsLines_printing :
    ∃ output, ((Submission.runTool ⟨"/bin/tool", [], [], 0⟩ 1000).run.run
      (printing (written ("out", true)) (written ("err", false))) ()).value = .ok output ∧
      Interleaved ["out"] ["err"] output.lines := by
  obtain ⟨⟨output, out, err, hvalue, -, hout, herr, both⟩, -, unique, readBack⟩ :=
    runTool_keepsLines (printing (written ("out", true)) (written ("err", false))) ()
      ⟨"/bin/tool", [], [], 0⟩ 1000 (some 3) _ _ _ rfl
  have hout' := readBack [("out", true)] (by simp)
  have herr' := readBack [("err", false)] (by simp)
  rw [List.flatMap_singleton] at hout' herr'
  obtain rfl := (unique _).unique hout hout'
  obtain rfl := (unique _).unique herr herr'
  exact ⟨output, hvalue, both⟩

end DomainDeploy.ToolOutput
