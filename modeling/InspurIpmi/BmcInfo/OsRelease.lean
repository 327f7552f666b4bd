import InspurIpmi.BmcInfo.Lengths
import Mathlib.Data.List.TakeWhile

/-!
# Well-formed version files

The grammar of the version file, and what the scanner makes of a file that keeps
to it.
-/

set_option autoImplicit false

namespace InspurIpmi

open Foundation

/-!
## Grammar
-/

def equals : UInt8 := 0x3D

def versionName : List UInt8 := bytesOf "VERSION"
def buildtimeName : List UInt8 := bytesOf "BUILDTIME"

structure OsEntry where
  key : List UInt8
  quoted : Bool
  value : List UInt8
  deriving DecidableEq, Repr

namespace OsEntry

def written (entry : OsEntry) : List UInt8 :=
  if entry.quoted then quote :: (entry.value ++ [quote]) else entry.value

def line (entry : OsEntry) : List UInt8 := entry.key ++ [equals] ++ entry.written

/-- A line of the form `KEY=value`, with quotes at most around the value. -/
structure WellFormed (entry : OsEntry) : Prop where
  keyPlain : equals ∉ entry.key ∧ quote ∉ entry.key
  barePlain : entry.quoted = false → quote ∉ entry.value
  single : newline ∉ entry.line
  text : 0 ∉ entry.line
  short : entry.line.length < bufferSize

def Mentions (name : List UInt8) (entry : OsEntry) : Prop := name ++ [equals] <:+: entry.line

instance decidableMentions (name : List UInt8) : DecidablePred (Mentions name) :=
  fun entry => inferInstanceAs (Decidable (name ++ [equals] <:+: entry.line))

/-- What a line comes to: the value between quotes, or all of a bare line but its
last character. -/
def Yields (value : List UInt8) (entry : OsEntry) : Prop :=
  if entry.quoted then entry.value = value else entry.line.dropLast = value

end OsEntry

/-- A well-formed version file whose two values fit the reply. -/
structure OsRelease where
  entries : List OsEntry
  terminated : Bool
  wellFormed : ∀ entry ∈ entries, entry.WellFormed
  distinct : (entries.map OsEntry.key).Nodup
  versionFits : ∀ entry ∈ entries, entry.key = versionName → entry.value.length ≤ bmcVersionLength
  buildtimeFits : ∀ entry ∈ entries, entry.key = buildtimeName →
    entry.value.length ≤ bmcBuildtimeLength

namespace OsRelease

def text (file : OsRelease) : List UInt8 :=
  [newline].intercalate (file.entries.map OsEntry.line ++ if file.terminated then [[]] else [])

/-- The value of a key, nothing for a key that is absent. -/
def value (file : OsRelease) (name : List UInt8) : List UInt8 :=
  ((file.entries.find? fun entry => entry.key = name).map OsEntry.value).getD []

def reply (file : OsRelease) : Buffer := fun index =>
  if index < bmcVersionLength then (file.value versionName).getD index 0
  else (file.value buildtimeName).getD (index - bmcVersionLength) 0

/-- The last line that mentions the key comes to its value. -/
def Decides (file : OsRelease) (name : List UInt8) : Prop :=
  ∀ entry, (file.entries.filter fun entry => entry.Mentions name).getLast? = some entry →
    entry.Yields (file.value name)

/-- Whatever an overrun would do, the command replies with the two values. -/
def RepliesValues (file : OsRelease) : Prop :=
  ∃ fuel, ∀ overrun world, ∃ after,
    (ipmiGetBmcVersionInfo overrun fuel (some file.text)).run (World.receive world 0) =
        (.returned (some ccOk), after) ∧
      after.dataLen = getBMCVersionResSize ∧
      ∀ index < getBMCVersionResSize, after.response index = file.reply index

end OsRelease

/-!
## The scanner on well-formed lines
-/

theorem position_first {char : UInt8} {front : List UInt8} (outside : char ∉ front)
    (back : List UInt8) : position [char] (front ++ char :: back) = some front.length := by
  induction front with
  | nil => simp [position]
  | cons first front ih =>
    obtain ⟨different, later⟩ := not_or.mp (mt List.mem_cons.mpr outside)
    simp [position, different, ih later]

theorem position_eq_none {char : UInt8} {line : List UInt8} (outside : char ∉ line) :
    position [char] line = none := by
  rw [← Option.not_isSome_iff_eq_none, position_isSome_iff, List.singleton_infix_iff]
  exact outside

theorem OsEntry.value_line {entry : OsEntry} (wellFormed : entry.WellFormed) :
    (behindQuote entry.line).dropLast =
      if entry.quoted then entry.value else entry.line.dropLast := by
  obtain ⟨key, quoted, value⟩ := entry
  have keyPlain : quote ∉ key ++ [equals] := by
    intro member
    rcases List.mem_append.mp member with inKey | inSeparator
    · exact wellFormed.keyPlain.2 inKey
    · exact absurd inSeparator (by decide)
  cases quoted with
  | true =>
    have behind : (OsEntry.line ⟨key, true, value⟩).drop ((key ++ [equals]).length + 1) =
        value ++ [quote] := by
      rw [← List.drop_drop]
      exact congrArg (List.drop 1) List.drop_left
    have first : position [quote] (OsEntry.line ⟨key, true, value⟩) = some (key ++ [equals]).length :=
      position_first keyPlain (value ++ [quote])
    rw [behindQuote, first]
    dsimp only
    rw [behind, List.dropLast_concat, if_pos rfl]
  | false =>
    have plain : quote ∉ OsEntry.line ⟨key, false, value⟩ := by
      unfold OsEntry.line
      rw [List.mem_append, not_or]
      exact ⟨keyPlain, wellFormed.barePlain rfl⟩
    rw [behindQuote, position_eq_none plain]
    rfl

/-- A final newline leaves one more line, which is empty. -/
theorem OsRelease.splitOn_text (file : OsRelease) :
    ∃ blank, file.text.splitOn newline = file.entries.map OsEntry.line ++ blank ∧
      ∀ line ∈ blank, line = [] := by
  have blank : ∀ line ∈ (if file.terminated then [[]] else [] : List (List UInt8)), line = [] := by
    cases file.terminated <;> simp
  cases lines : file.entries.map OsEntry.line ++ if file.terminated then [[]] else [] with
  | nil =>
    obtain ⟨noEntry, _⟩ := List.append_eq_nil_iff.mp lines
    refine ⟨[[]], ?_, by simp⟩
    rw [OsRelease.text, lines, noEntry]
    rfl
  | cons first rest =>
    refine ⟨_, ?_, blank⟩
    rw [lines, OsRelease.text, lines]
    refine List.splitOn_intercalate newline (fun line member => ?_) (List.cons_ne_nil first rest)
    rw [← lines] at member
    rcases List.mem_append.mp member with inEntries | inBlank
    · obtain ⟨entry, entryMember, rfl⟩ := List.mem_map.mp inEntries
      exact (file.wellFormed entry entryMember).single
    · rw [blank line inBlank]
      exact List.not_mem_nil

theorem OsRelease.fitsBuffer_text (file : OsRelease) : FitsBuffer file.text := by
  obtain ⟨blank, split, empty⟩ := file.splitOn_text
  intro line member
  rw [split] at member
  rcases List.mem_append.mp member with inEntries | inBlank
  · obtain ⟨entry, entryMember, rfl⟩ := List.mem_map.mp inEntries
    exact (file.wellFormed entry entryMember).short
  · rw [empty line inBlank]
    decide

theorem cString_eq_self {text : List UInt8} (noZero : 0 ∉ text) : cString text = text := by
  refine List.takeWhile_eq_self_iff.mpr fun byte member => decide_eq_true ?_
  rintro rfl
  exact noZero member

theorem OsRelease.lastLine_text (file : OsRelease) (name : List UInt8) :
    lastLine (name ++ [equals]) file.text =
      (file.entries.filter fun entry => entry.Mentions name).getLast?.map OsEntry.line := by
  obtain ⟨blank, split, empty⟩ := file.splitOn_text
  have uncut : (file.text.splitOn newline).map cString = file.text.splitOn newline := by
    refine (List.map_congr_left fun line member => cString_eq_self ?_).trans (List.map_id _)
    rw [split] at member
    rcases List.mem_append.mp member with inEntries | inBlank
    · obtain ⟨entry, entryMember, rfl⟩ := List.mem_map.mp inEntries
      exact (file.wellFormed entry entryMember).text
    · rw [empty line inBlank]
      exact List.not_mem_nil
  have unmentioned : blank.filter (fun line => name ++ [equals] <:+: line) = [] := by
    refine List.filter_eq_nil_iff.mpr fun line member => ?_
    rw [empty line member]
    simp
  rw [lastLine, uncut, split, List.filter_append, unmentioned, List.append_nil, List.filter_map,
    List.getLast?_map]
  rfl

theorem OsRelease.lastValue_text (file : OsRelease) (name : List UInt8) :
    lastValue (name ++ [equals]) file.text =
      (file.entries.filter fun entry => entry.Mentions name).getLast?.elim [] fun entry =>
        if entry.quoted then entry.value else entry.line.dropLast := by
  rw [lastValue, file.lastLine_text name]
  cases last : (file.entries.filter fun entry => entry.Mentions name).getLast? with
  | none => rfl
  | some entry =>
    have member := List.mem_of_mem_filter (List.mem_of_getLast? last)
    exact OsEntry.value_line (file.wellFormed entry member)

theorem OsEntry.mentions_key (entry : OsEntry) : entry.Mentions entry.key :=
  List.infix_append_left

/-- A key that no line mentions is absent. -/
theorem OsRelease.value_unmentioned {file : OsRelease} {name : List UInt8}
    (unmentioned : ∀ entry ∈ file.entries, ¬ entry.Mentions name) : file.value name = [] := by
  have absent : (file.entries.find? fun entry => entry.key = name) = none := by
    refine List.find?_eq_none.mpr fun entry member named => unmentioned entry member ?_
    rw [← of_decide_eq_true named]
    exact entry.mentions_key
  rw [OsRelease.value, absent]
  rfl

theorem OsRelease.lastValue_eq_iff (file : OsRelease) (name : List UInt8) :
    lastValue (name ++ [equals]) file.text = file.value name ↔ file.Decides name := by
  rw [file.lastValue_text name, OsRelease.Decides]
  cases last : (file.entries.filter fun entry => entry.Mentions name).getLast? with
  | none =>
    have unmentioned : ∀ entry ∈ file.entries, ¬ entry.Mentions name := by
      have nothing := List.getLast?_eq_none_iff.mp last
      simpa using List.filter_eq_nil_iff.mp nothing
    simp [OsRelease.value_unmentioned unmentioned]
  | some entry =>
    obtain ⟨key, quoted, value⟩ := entry
    cases quoted <;> simp [OsEntry.Yields]

/-!
## The reply
-/

theorem versionReply_apply {strings : VersionStrings}
    (versionFits : strings.version.length ≤ bmcVersionLength) (index : ℕ) :
    versionReply strings index =
      if index < bmcVersionLength then strings.version.getD index 0
      else strings.buildtime.getD (index - bmcVersionLength) 0 := by
  have version : ∀ index, overlay (fun _ => (0 : UInt8)) 0 strings.version.length
      (fun place => strings.version.getD place 0) index = strings.version.getD index 0 := by
    intro index
    have padded := @overlay_padded _ (fun _ => 0) 0 strings.version 0 index rfl
    rwa [Nat.zero_add] at padded
  unfold versionReply
  by_cases before : index < bmcVersionLength
  · rw [if_pos before, overlay_outside _ _ (.inl before), version]
  · obtain ⟨place, rfl⟩ := Nat.exists_eq_add_of_le (Nat.le_of_not_lt before)
    have clear := (version (bmcVersionLength + place)).trans
      (List.getD_eq_default _ _ (Nat.le_add_right_of_le versionFits))
    rw [if_neg before, overlay_padded _ clear, Nat.add_sub_cancel_left]

theorem zero_notMem_lastValue (key content : List UInt8) : 0 ∉ lastValue key content := by
  unfold lastValue
  cases last : lastLine key content with
  | none => exact List.not_mem_nil
  | some line =>
    have shown := List.mem_of_mem_filter (List.mem_of_getLast? last)
    obtain ⟨buffer, _, rfl⟩ := List.mem_map.mp shown
    intro member
    have inLine : 0 ∈ cString buffer := by
      have behind := List.mem_of_mem_dropLast member
      unfold behindQuote at behind
      split at behind
      · exact List.mem_of_mem_drop behind
      · exact behind
    exact absurd (List.mem_takeWhile_imp inLine) (by decide)

theorem OsRelease.zero_notMem_value (file : OsRelease) (name : List UInt8) :
    0 ∉ file.value name := by
  unfold OsRelease.value
  cases found : file.entries.find? fun entry => entry.key = name with
  | none => exact List.not_mem_nil
  | some entry =>
    have plain := (file.wellFormed entry (List.mem_of_find?_eq_some found)).text
    intro member
    refine plain (List.mem_append_right _ ?_)
    unfold OsEntry.written
    split
    · exact List.mem_cons_of_mem quote (List.mem_append_left [quote] member)
    · exact member

theorem OsRelease.value_fits {file : OsRelease} {name : List UInt8} {length : ℕ}
    (fits : ∀ entry ∈ file.entries, entry.key = name → entry.value.length ≤ length) :
    (file.value name).length ≤ length := by
  unfold OsRelease.value
  cases found : file.entries.find? fun entry => entry.key = name with
  | none => exact Nat.zero_le length
  | some entry =>
    have named : entry.key = name := by simpa using List.find?_some found
    exact fits entry (List.mem_of_find?_eq_some found) named

theorem OsRelease.values_of_reply (file : OsRelease) {strings : VersionStrings}
    (versionFits : strings.version.length ≤ bmcVersionLength)
    (buildtimeFits : strings.buildtime.length ≤ bmcBuildtimeLength)
    (versionPlain : 0 ∉ strings.version) (buildtimePlain : 0 ∉ strings.buildtime)
    (same : ∀ index < getBMCVersionResSize, versionReply strings index = file.reply index) :
    strings.version = file.value versionName ∧ strings.buildtime = file.value buildtimeName := by
  simp only [versionReply_apply versionFits] at same
  constructor
  · refine padded_injective versionFits (OsRelease.value_fits file.versionFits) versionPlain
      (file.zero_notMem_value versionName) fun index below => ?_
    have byte := same index (Nat.lt_add_right bmcBuildtimeLength below)
    simpa only [OsRelease.reply, below, if_true] using byte
  · refine padded_injective buildtimeFits (OsRelease.value_fits file.buildtimeFits) buildtimePlain
      (file.zero_notMem_value buildtimeName) fun index below => ?_
    have behind := Nat.not_lt_of_le (Nat.le_add_right bmcVersionLength index)
    have byte := same (bmcVersionLength + index) (Nat.add_lt_add_left below bmcVersionLength)
    simpa only [OsRelease.reply, behind, if_false, Nat.add_sub_cancel_left] using byte

theorem run_copyField_overrun {start length : ℕ} {text : List UInt8} (long : length < text.length)
    (versionInfo : Buffer) (world : World) :
    (copyField (Process.exit 1) start length text versionInfo).run world = (.exited 1, world) := by
  unfold copyField
  rw [if_pos long]
  rfl

/-- An overrun that ends the process leaves no reply. -/
theorem run_ipmiGetBmcVersionInfo_overrun {fuel : ℕ} {file : Option (List UInt8)} {world : World}
    {final : VersionScan} (right : world.dataLen = 0)
    (ended : readVersionFile fuel file = some (.ok final))
    (long : bmcVersionLength < final.strings.version.length ∨
      bmcBuildtimeLength < final.strings.buildtime.length) :
    (ipmiGetBmcVersionInfo (Process.exit 1) fuel file).run world = (.exited 1, world) := by
  have overrun : (getBmcVersionInfo (Process.exit 1) fuel file).run world = (.exited 1, world) := by
    unfold getBmcVersionInfo
    simp only [ended]
    rcases Nat.lt_or_ge bmcVersionLength final.strings.version.length with versionLong | versionFits
    · exact Process.run_bind_exited (run_copyField_overrun versionLong _ world) _
    · have buildtimeLong := long.resolve_left (Nat.not_lt_of_le versionFits)
      rw [Process.run_bind_returned (run_copyField_fits versionFits _ world)]
      exact Process.run_bind_exited (run_copyField_overrun buildtimeLong _ world) _
  unfold ipmiGetBmcVersionInfo
  rw [run_getDataLen_bind, if_neg (not_not_intro right), Process.run_tryCatch,
    Process.run_bind_exited overrun]

theorem OsRelease.strings_of_repliesValues {file : OsRelease} (repliesValues : file.RepliesValues) :
    lastValue versionKey file.text = file.value versionName ∧
      lastValue buildtimeKey file.text = file.value buildtimeName := by
  obtain ⟨fuel, replies⟩ := repliesValues
  obtain ⟨after, ran, _, same⟩ := replies (Process.exit 1) World.boot
  cases result : readVersionFile fuel (some file.text) with
  | none =>
    rw [run_ipmiGetBmcVersionInfo_running rfl result] at ran
    cases ran
  | some outcome =>
    obtain ⟨_, final, rfl, _⟩ := readVersionFile_result result
    have strings := readVersionFile_strings result
    by_cases fits : final.strings.version.length ≤ bmcVersionLength ∧
        final.strings.buildtime.length ≤ bmcBuildtimeLength
    · rw [run_ipmiGetBmcVersionInfo_fits rfl result fits.1 fits.2] at ran
      cases ran
      have written : ∀ index < getBMCVersionResSize,
          versionReply final.strings index = file.reply index := by
        intro index below
        rw [← same index below]
        exact (overlay_front _ _ below).symm
      rw [strings] at fits written
      exact file.values_of_reply fits.1 fits.2 (zero_notMem_lastValue versionKey file.text)
        (zero_notMem_lastValue buildtimeKey file.text) written
    · rw [run_ipmiGetBmcVersionInfo_overrun rfl result (by omega)] at ran
      cases ran

theorem OsRelease.repliesValues_of_strings {file : OsRelease}
    (version : lastValue versionKey file.text = file.value versionName)
    (buildtime : lastValue buildtimeKey file.text = file.value buildtimeName) :
    file.RepliesValues := by
  obtain ⟨fuel, final, ended, _⟩ := readVersionFile_ends file.fitsBuffer_text
  have strings := readVersionFile_strings ended
  rw [version, buildtime] at strings
  have versionFits : final.strings.version.length ≤ bmcVersionLength := by
    rw [strings]
    exact OsRelease.value_fits file.versionFits
  have buildtimeFits : final.strings.buildtime.length ≤ bmcBuildtimeLength := by
    rw [strings]
    exact OsRelease.value_fits file.buildtimeFits
  refine ⟨fuel, fun overrun world => ⟨_,
    run_ipmiGetBmcVersionInfo_fits rfl ended versionFits buildtimeFits, rfl, ?_⟩⟩
  intro index below
  refine (overlay_front _ _ below).trans ?_
  rw [versionReply_apply versionFits, strings]
  rfl

/-!
## Which value is replied
-/

/-- The reply is right exactly when, for both keys, the last line that mentions the
key comes to its value. -/
theorem repliesValues_iff (file : OsRelease) :
    file.RepliesValues ↔ file.Decides versionName ∧ file.Decides buildtimeName := by
  have versionText : versionKey = versionName ++ [equals] := by decide
  have buildtimeText : buildtimeKey = buildtimeName ++ [equals] := by decide
  rw [← file.lastValue_eq_iff, ← file.lastValue_eq_iff, ← versionText, ← buildtimeText]
  constructor
  · exact OsRelease.strings_of_repliesValues
  · intro strings
    exact OsRelease.repliesValues_of_strings strings.1 strings.2

/-- `VERSION=1.2` -/
def bareVersion : OsEntry := ⟨versionName, false, bytesOf "1.2"⟩

def bareRelease : OsRelease where
  entries := [bareVersion]
  terminated := true
  wellFormed := by
    rw [List.forall_mem_singleton]
    exact ⟨by decide, by decide, by decide, by decide, by decide⟩
  distinct := List.nodup_singleton _
  versionFits := by decide
  buildtimeFits := by decide

theorem bare_version_cut : ¬ bareRelease.RepliesValues := by
  intro replies
  have strings := OsRelease.strings_of_repliesValues replies
  exact absurd strings.1 (by decide)

end InspurIpmi
