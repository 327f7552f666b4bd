import InspurIpmi.BmcInfo

/-!
# The loop over the version file

The loop ends when the stream is at its end. Lines that fit the buffer bring it
there; a line that does not fit leaves a stream that fails for good.
-/

set_option autoImplicit false

namespace InspurIpmi

open Foundation

/-!
## The value of a line
-/

/-- What stands behind the first quote, or the whole line. -/
def behindQuote (line : List UInt8) : List UInt8 :=
  match position [quote] line with
  | some place => line.drop (place + 1)
  | none => line

theorem position_lt {text line : List UInt8} {place : ℕ} (nonempty : text ≠ [])
    (found : position text line = some place) : place < line.length := by
  induction line generalizing place with
  | nil => simp [position, nonempty] at found
  | cons first rest ih =>
    simp only [position] at found
    cases starts : text.isPrefixOf (first :: rest) with
    | true =>
      rw [starts] at found
      cases found
      exact Nat.zero_lt_succ _
    | false =>
      rw [starts] at found
      obtain ⟨earlier, foundLater, rfl⟩ := Option.map_eq_some_iff.mp found
      exact Nat.succ_lt_succ (ih foundLater)

theorem position_isSome_iff {text line : List UInt8} :
    (position text line).isSome ↔ text <:+: line := by
  induction line with
  | nil => simp [position, List.infix_nil]
  | cons first rest ih =>
    rw [position, List.infix_cons_iff, ← ih, ← List.isPrefixOf_iff_prefix]
    cases text.isPrefixOf (first :: rest) <;> simp

theorem find_ne_npos_iff {text line : List UInt8} (nonempty : text ≠ [])
    (short : line.length < bufferSize) : find text line ≠ npos ↔ text <:+: line := by
  rw [← position_isSome_iff, find]
  cases found : position text line with
  | none => simp
  | some place =>
    have below := position_lt nonempty found
    simp only [Option.getD_some, Option.isSome_some, iff_true]
    unfold bufferSize at short
    unfold npos
    omega

/-- A count of `-1` asks for everything behind the position, which is nothing. -/
theorem substr_behind {line : List UInt8} {start : ℕ} (inside : start ≤ line.length)
    (short : line.length < bufferSize) :
    substr line start (line.length - start - 1) = .ok (line.drop start).dropLast := by
  unfold bufferSize at short
  have startFits : toSizeT start = start := by
    unfold toSizeT
    omega
  have notBehind : ¬ ((line.length : Int) < start) := by omega
  rw [substr, startFits, if_neg notBehind, Int.toNat_natCast, List.dropLast_eq_take]
  rcases Nat.lt_or_eq_of_le inside with before | atEnd
  · have count : (toSizeT (line.length - start - 1)).toNat = (line.drop start).length - 1 := by
      rw [List.length_drop]
      unfold toSizeT
      omega
    rw [count]
  · rw [List.drop_of_length_le (Nat.le_of_eq atEnd.symm), List.take_nil, List.take_nil]

theorem valueOf_eq {line : List UInt8} (short : line.length < bufferSize) :
    valueOf line = .ok (behindQuote line).dropLast := by
  have small : line.length < 256 := short
  obtain ⟨start, inside, found, behind⟩ : ∃ start : ℕ, start ≤ line.length ∧
      toInt (toSizeT (find [quote] line + 1)) = start ∧ line.drop start = behindQuote line := by
    unfold find behindQuote
    cases quoted : position [quote] line with
    | none => exact ⟨0, Nat.zero_le _, by decide, rfl⟩
    | some place =>
      have below := position_lt (List.cons_ne_nil quote []) quoted
      refine ⟨place + 1, below, ?_, rfl⟩
      rw [Option.getD_some, toInt_toSizeT (by omega) (by omega)]
      rfl
  have count : toInt (toSizeT (line.length - start - 1)) = line.length - start - 1 :=
    toInt_toSizeT (by omega) (by omega)
  unfold valueOf
  dsimp only
  rw [found, count, substr_behind inside short, behind]

/-!
## One pass
-/

def noted (strings : VersionStrings) (line : List UInt8) : VersionStrings where
  buildtime := if buildtimeKey <:+: line then (behindQuote line).dropLast else strings.buildtime
  version := if versionKey <:+: line then (behindQuote line).dropLast else strings.version

theorem noteLine_eq (strings : VersionStrings) {line : List UInt8}
    (short : line.length < bufferSize) : noteLine strings line = .ok (noted strings line) := by
  have buildtime := @find_ne_npos_iff buildtimeKey line (by decide) short
  have version := @find_ne_npos_iff versionKey line (by decide) short
  unfold noteLine noted
  simp only [buildtime, version, valueOf_eq short]
  by_cases hasBuildtime : buildtimeKey <:+: line <;> by_cases hasVersion : versionKey <:+: line <;>
    simp only [hasBuildtime, hasVersion, if_true, if_false] <;> rfl

theorem cString_length (buffer : List UInt8) : (cString buffer).length ≤ buffer.length :=
  (List.takeWhile_sublist _).length_le

theorem readLine_eq {stream next : LineStream UInt8} {buffer : List UInt8}
    (got : stream.getline newline bufferSize = (buffer, next)) (fits : buffer.length < bufferSize)
    (strings : VersionStrings) :
    readLine ⟨stream, strings⟩ = .ok ⟨next, noted strings (cString buffer)⟩ := by
  have short := Nat.lt_of_le_of_lt (cString_length buffer) fits
  unfold readLine
  rw [got]
  simp only [noteLine_eq strings short]
  rfl

/-!
## The whole loop
-/

def FitsBuffer (content : List UInt8) : Prop :=
  ∀ line ∈ content.splitOn newline, line.length < bufferSize

instance decidableFitsBuffer (content : List UInt8) : Decidable (FitsBuffer content) :=
  inferInstanceAs (Decidable (∀ line ∈ content.splitOn newline, line.length < bufferSize))

/-- What the strings hold once each of the lines has been looked at. -/
def notedAll (strings : VersionStrings) (lines : List (List UInt8)) : VersionStrings :=
  lines.foldl (fun strings line => noted strings (cString line)) strings

abbrev LoopEnds (scan : VersionScan) (final : VersionScan) : Prop :=
  Ends VersionScan.notAtEnd readLine scan (.ok final)

abbrev LoopRunsOn (scan : VersionScan) : Prop := Diverges VersionScan.notAtEnd readLine scan

theorem loop_ends {content : List UInt8} (fits : FitsBuffer content) (strings : VersionStrings) :
    ∃ failed, LoopEnds ⟨.opened content, strings⟩
      ⟨⟨[], true, failed⟩, notedAll strings (content.splitOn newline)⟩ := by
  unfold FitsBuffer at fits
  induction content using LineStream.lines_induction newline generalizing strings with
  | last line single =>
    rw [List.splitOn_eq_singleton single] at fits ⊢
    have short := fits line List.mem_cons_self
    have ran := readLine_eq (LineStream.getline_last single short) short strings
    exact ⟨line.isEmpty, Ends.pass rfl ran (Ends.stop rfl)⟩
  | more line rest single ih =>
    rw [List.splitOn_append_cons_self_of_not_mem single] at fits ⊢
    have short := fits line List.mem_cons_self
    obtain ⟨failed, ended⟩ := ih (fun later member => fits later (List.mem_cons_of_mem line member))
      (noted strings (cString line))
    have ran := readLine_eq (LineStream.getline_line single short rest) short strings
    exact ⟨failed, Ends.pass rfl ran ended⟩

/-- A failed stream that is not at its end stays so, and each pass reads an empty
line. -/
theorem loop_runs_on_failed (rest : List UInt8) (strings : VersionStrings) :
    LoopRunsOn ⟨⟨rest, false, true⟩, strings⟩ := by
  have keeps : ∀ scan : VersionScan, scan.stream = ⟨rest, false, true⟩ →
      scan.notAtEnd = true ∧ ∃ next, readLine scan = .ok next ∧
        next.stream = ⟨rest, false, true⟩ := by
    rintro ⟨stream, strings⟩ rfl
    have failed : (⟨rest, false, true⟩ : LineStream UInt8).failbit = true := rfl
    have ran := readLine_eq (LineStream.getline_failed failed) (by decide) strings
    exact ⟨rfl, _, ran, rfl⟩
  exact diverges_of_invariant keeps rfl

theorem loop_runs_on_long {line : List UInt8} (single : newline ∉ line)
    (long : bufferSize ≤ line.length) (rest : List UInt8) (strings : VersionStrings) :
    LoopRunsOn ⟨.opened (line ++ rest), strings⟩ := by
  have cut : (line.take (bufferSize - 1)).length < bufferSize := by
    have shorter := List.length_take_le (bufferSize - 1) line
    unfold bufferSize at shorter ⊢
    omega
  have got := LineStream.getline_long single (by decide) long rest
  exact Diverges.pass rfl (readLine_eq got cut strings) (loop_runs_on_failed _ _)

theorem loop_runs_on {content : List UInt8} (overlong : ¬ FitsBuffer content)
    (strings : VersionStrings) : LoopRunsOn ⟨.opened content, strings⟩ := by
  unfold FitsBuffer at overlong
  induction content using LineStream.lines_induction newline generalizing strings with
  | last line single =>
    rw [List.splitOn_eq_singleton single, List.forall_mem_singleton] at overlong
    have ran := loop_runs_on_long single (Nat.le_of_not_lt overlong) [] strings
    rwa [List.append_nil] at ran
  | more line rest single ih =>
    rw [List.splitOn_append_cons_self_of_not_mem single, List.forall_mem_cons] at overlong
    rcases Nat.lt_or_ge line.length bufferSize with short | long
    · have later := ih (fun fits => overlong ⟨short, fits⟩) (noted strings (cString line))
      have ran := readLine_eq (LineStream.getline_line single short rest) short strings
      exact Diverges.pass rfl ran later
    · exact loop_runs_on_long single long (newline :: rest) strings

/-!
## What the command does
-/

theorem readVersionFile_ends {content : List UInt8} (fits : FitsBuffer content) :
    ∃ fuel final, readVersionFile fuel (some content) = some (.ok final) ∧
      final.strings = notedAll ⟨[], []⟩ (content.splitOn newline) := by
  obtain ⟨failed, fuel, ended⟩ := loop_ends fits ⟨[], []⟩
  exact ⟨fuel, _, ended, rfl⟩

/-- Whatever the loop ends with, it has looked at every line. -/
theorem readVersionFile_result {content : List UInt8} {fuel : ℕ}
    {result : Except Exception VersionScan}
    (ended : readVersionFile fuel (some content) = some result) :
    FitsBuffer content ∧ ∃ final, result = .ok final ∧
      final.strings = notedAll ⟨[], []⟩ (content.splitOn newline) := by
  have fits : FitsBuffer content := by
    by_contra overlong
    cases (loop_runs_on overlong ⟨[], []⟩ fuel).symm.trans ended
  obtain ⟨failed, complete⟩ := loop_ends fits ⟨[], []⟩
  exact ⟨fits, _, Ends.unique ⟨fuel, ended⟩ complete, rfl⟩

theorem readVersionFile_running {file : Option (List UInt8)}
    (unfit : ∀ content, file = some content → ¬ FitsBuffer content) (fuel : ℕ) :
    readVersionFile fuel file = none := by
  cases file with
  | none => exact loop_runs_on_failed [] ⟨[], []⟩ fuel
  | some content => exact loop_runs_on (unfit content rfl) ⟨[], []⟩ fuel

variable {overrun : Daemon Unit} {fuel : ℕ} {file : Option (List UInt8)} {world : World}

theorem run_ipmiGetBmcVersionInfo_length (wrong : world.dataLen ≠ 0) :
    (ipmiGetBmcVersionInfo overrun fuel file).run world =
      (.returned (some ccReqDataLenInvalid), { world with dataLen := 0 }) := by
  unfold ipmiGetBmcVersionInfo
  rw [run_getDataLen_bind, if_pos wrong]
  rfl

theorem run_ipmiGetBmcVersionInfo_running (right : world.dataLen = 0)
    (running : readVersionFile fuel file = none) :
    (ipmiGetBmcVersionInfo overrun fuel file).run world = (.returned none, world) := by
  unfold ipmiGetBmcVersionInfo getBmcVersionInfo
  rw [run_getDataLen_bind, if_neg (not_not_intro right), running]
  rfl

theorem run_copyField_fits {start length : ℕ} {text : List UInt8} (fits : text.length ≤ length)
    (versionInfo : Buffer) (world : World) :
    (copyField overrun start length text versionInfo).run world =
      (.returned (overlay versionInfo start text.length fun index => text.getD index 0), world) := by
  unfold copyField
  rw [if_neg (Nat.not_lt_of_le fits)]
  rfl

/-- The structure `GetBMCVersionRes` with the two strings copied into it. -/
def versionReply (strings : VersionStrings) : Buffer :=
  overlay (overlay (fun _ => 0) 0 strings.version.length fun index => strings.version.getD index 0)
    bmcVersionLength strings.buildtime.length fun index => strings.buildtime.getD index 0

theorem run_ipmiGetBmcVersionInfo_filled {after : World} (right : world.dataLen = 0)
    (filled : (getBmcVersionInfo overrun fuel file).run world = (.returned (some ()), after)) :
    (ipmiGetBmcVersionInfo overrun fuel file).run world =
      (.returned (some ccOk), { after with dataLen := getBMCVersionResSize }) := by
  unfold ipmiGetBmcVersionInfo
  rw [run_getDataLen_bind, if_neg (not_not_intro right), Process.run_tryCatch_bind filled]
  rfl

theorem run_ipmiGetBmcVersionInfo_fits {final : VersionScan} (right : world.dataLen = 0)
    (ended : readVersionFile fuel file = some (.ok final))
    (versionFits : final.strings.version.length ≤ bmcVersionLength)
    (buildtimeFits : final.strings.buildtime.length ≤ bmcBuildtimeLength) :
    (ipmiGetBmcVersionInfo overrun fuel file).run world =
      (.returned (some ccOk),
        { world with
          dataLen := getBMCVersionResSize
          response := overlay world.response 0 getBMCVersionResSize (versionReply final.strings) }) := by
  have filled : (getBmcVersionInfo overrun fuel file).run world =
      (.returned (some ()),
        { world with
          response := overlay world.response 0 getBMCVersionResSize
            (versionReply final.strings) }) := by
    unfold getBmcVersionInfo
    simp only [ended]
    rw [Process.run_bind_returned (run_copyField_fits versionFits _ world),
      Process.run_bind_returned (run_copyField_fits buildtimeFits _ world)]
    rfl
  exact run_ipmiGetBmcVersionInfo_filled right filled

/-!
## Termination
-/

/-- The request is answered, provided that a text that does not fit does no more
harm than to be copied. -/
def VersionRequestReturns (file : Option (List UInt8)) : Prop :=
  ∃ fuel, ∀ overrun : Daemon Unit, (∀ world, ∃ after, overrun.run world = (.returned (), after)) →
    ∀ world, ∃ code after,
      (ipmiGetBmcVersionInfo overrun fuel file).run world = (.returned (some code), after)

theorem run_copyField_returns {overrun : Daemon Unit}
    (returns : ∀ world, ∃ after, overrun.run world = (.returned (), after)) (start length : ℕ)
    (text : List UInt8) (versionInfo : Buffer) (world : World) :
    ∃ filled after, (copyField overrun start length text versionInfo).run world =
      (.returned filled, after) := by
  unfold copyField
  by_cases long : length < text.length
  · obtain ⟨after, ran⟩ := returns world
    rw [if_pos long]
    exact ⟨_, after, Process.run_bind_returned ran _⟩
  · rw [if_neg long]
    exact ⟨_, world, rfl⟩

theorem run_ipmiGetBmcVersionInfo_returns {final : VersionScan}
    (returns : ∀ world, ∃ after, overrun.run world = (.returned (), after))
    (ended : readVersionFile fuel file = some (.ok final)) (world : World) :
    ∃ code after, (ipmiGetBmcVersionInfo overrun fuel file).run world =
      (.returned (some code), after) := by
  by_cases right : world.dataLen = 0
  · obtain ⟨version, middle, copied⟩ := run_copyField_returns returns 0 bmcVersionLength
      final.strings.version (fun _ => 0) world
    obtain ⟨both, last, copiedBoth⟩ := run_copyField_returns returns bmcVersionLength
      bmcBuildtimeLength final.strings.buildtime version middle
    have filled : (getBmcVersionInfo overrun fuel file).run world =
        (.returned (some ()),
          { last with response := overlay last.response 0 getBMCVersionResSize both }) := by
      unfold getBmcVersionInfo
      simp only [ended]
      rw [Process.run_bind_returned copied, Process.run_bind_returned copiedBoth]
      rfl
    exact ⟨_, _, run_ipmiGetBmcVersionInfo_filled right filled⟩
  · exact ⟨_, _, run_ipmiGetBmcVersionInfo_length right⟩

theorem not_versionRequestReturns {file : Option (List UInt8)}
    (unfit : ∀ content, file = some content → ¬ FitsBuffer content) :
    ¬ VersionRequestReturns file := by
  rintro ⟨fuel, returns⟩
  obtain ⟨code, after, ran⟩ := returns (pure ()) (fun world => ⟨world, rfl⟩) World.boot
  rw [run_ipmiGetBmcVersionInfo_running rfl (readVersionFile_running unfit fuel)] at ran
  cases ran

/-- The version request returns exactly when the file opens and each of its lines
fits the buffer. -/
theorem versionRequestReturns_iff (file : Option (List UInt8)) :
    VersionRequestReturns file ↔ ∃ content, file = some content ∧ FitsBuffer content := by
  constructor
  · intro returns
    by_contra unfit
    exact not_versionRequestReturns (fun content opened fits => unfit ⟨content, opened, fits⟩) returns
  · rintro ⟨content, rfl, fits⟩
    obtain ⟨fuel, final, ended, _⟩ := readVersionFile_ends fits
    exact ⟨fuel, fun overrun returns world =>
      run_ipmiGetBmcVersionInfo_returns returns ended world⟩

theorem not_fitsBuffer_line {line : List UInt8} (single : newline ∉ line)
    (long : bufferSize ≤ line.length) : ¬ FitsBuffer line := by
  unfold FitsBuffer
  rw [List.splitOn_eq_singleton single, List.forall_mem_singleton]
  exact Nat.not_lt_of_le long

/-- Neither a file that does not open nor a line of `256` characters brings the
stream to its end. -/
theorem version_request_hangs :
    ¬ VersionRequestReturns none ∧
      ¬ VersionRequestReturns (some (List.replicate 256 0x61)) := by
  have single : newline ∉ List.replicate 256 (0x61 : UInt8) := by
    intro member
    exact absurd (List.eq_of_mem_replicate member) (by decide)
  have long : bufferSize ≤ (List.replicate 256 (0x61 : UInt8)).length := by
    rw [List.length_replicate, bufferSize]
  constructor
  · exact not_versionRequestReturns fun content opened => nomatch opened
  · refine not_versionRequestReturns fun content opened => ?_
    cases opened
    exact not_fitsBuffer_line single long

end InspurIpmi
