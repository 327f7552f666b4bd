import InspurIpmi.BmcInfo.LineLoop

/-!
# How long the strings get

Of all lines that mention a key the last one decides, and of that line what
stands behind its first quote.
-/

set_option autoImplicit false

namespace InspurIpmi

open Foundation

/-- The last line that mentions the key, as far as it is looked at. -/
def lastLine (key content : List UInt8) : Option (List UInt8) :=
  (((content.splitOn newline).map cString).filter fun line => key <:+: line).getLast?

def lastValue (key content : List UInt8) : List UInt8 :=
  (lastLine key content).elim [] fun line => (behindQuote line).dropLast

theorem foldl_keepLast {α β : Type} (mentions : α → Prop) [DecidablePred mentions] (value : α → β)
    (initial : β) (lines : List α) :
    lines.foldl (fun kept line => if mentions line then value line else kept) initial =
      (lines.filter fun line => mentions line).getLast?.elim initial value := by
  induction lines using List.reverseRecOn with
  | nil => rfl
  | append_singleton lines line ih =>
    rw [List.foldl_append, ih, List.filter_append, List.foldl_cons, List.foldl_nil]
    by_cases last : mentions line
    · rw [if_pos last, List.filter_cons_of_pos (by simpa using last)]
      simp
    · rw [if_neg last, List.filter_cons_of_neg (by simpa using last), List.filter_nil,
        List.append_nil]

theorem notedAll_eq (strings : VersionStrings) (lines : List (List UInt8)) :
    notedAll strings lines =
      { buildtime := (lines.map cString).foldl (fun kept line =>
          if buildtimeKey <:+: line then (behindQuote line).dropLast else kept) strings.buildtime
        version := (lines.map cString).foldl (fun kept line =>
          if versionKey <:+: line then (behindQuote line).dropLast else kept) strings.version } := by
  induction lines generalizing strings with
  | nil => rfl
  | cons line lines ih => exact ih (noted strings (cString line))

theorem notedAll_lines (content : List UInt8) :
    notedAll ⟨[], []⟩ (content.splitOn newline) =
      ⟨lastValue buildtimeKey content, lastValue versionKey content⟩ := by
  rw [notedAll_eq, foldl_keepLast, foldl_keepLast]
  rfl

theorem readVersionFile_strings {content : List UInt8} {fuel : ℕ} {final : VersionScan}
    (ended : readVersionFile fuel (some content) = some (.ok final)) :
    final.strings = ⟨lastValue buildtimeKey content, lastValue versionKey content⟩ := by
  obtain ⟨_, known, result, strings⟩ := readVersionFile_result ended
  cases result
  exact strings.trans (notedAll_lines content)

-- A longer key that ends in the one looked for is taken for it.
example : lastValue versionKey (bytesOf "VERSION=\"1\"\nEXTENDED_VERSION=\"2\"\n") =
    bytesOf "2" := by decide

/-- Where the loop ends, both strings fit the arrays they are copied into. -/
def StringsFit (content : List UInt8) : Prop :=
  ∀ fuel final, readVersionFile fuel (some content) = some (.ok final) →
    final.strings.version.length ≤ bmcVersionLength ∧
      final.strings.buildtime.length ≤ bmcBuildtimeLength

theorem stringsFit_iff_values {content : List UInt8} :
    StringsFit content ↔
      (FitsBuffer content →
        (lastValue versionKey content).length ≤ bmcVersionLength ∧
          (lastValue buildtimeKey content).length ≤ bmcBuildtimeLength) := by
  constructor
  · intro stringsFit fits
    obtain ⟨fuel, final, ended, _⟩ := readVersionFile_ends fits
    have lengths := stringsFit fuel final ended
    rwa [readVersionFile_strings ended] at lengths
  · intro lengths fuel final ended
    rw [readVersionFile_strings ended]
    exact lengths (readVersionFile_result ended).1

/-- The line that decides has at most one character more than fits behind its
first quote. -/
def ShortBehindQuote (key : List UInt8) (length : ℕ) (content : List UInt8) : Prop :=
  ∀ line, lastLine key content = some line → (behindQuote line).length ≤ length + 1

theorem lastValue_length_iff {key content : List UInt8} {length : ℕ} :
    (lastValue key content).length ≤ length ↔ ShortBehindQuote key length content := by
  unfold lastValue ShortBehindQuote
  cases lastLine key content with
  | none => simp
  | some line => simp [List.length_dropLast]

/-- The strings fit exactly when the lines that decide are short behind their first
quote. -/
theorem stringsFit_iff (content : List UInt8) :
    StringsFit content ↔
      (FitsBuffer content →
        ShortBehindQuote versionKey bmcVersionLength content ∧
          ShortBehindQuote buildtimeKey bmcBuildtimeLength content) := by
  rw [stringsFit_iff_values, lastValue_length_iff, lastValue_length_iff]

/-- A bare line is copied but for its last character. -/
theorem strings_overrun : ¬ StringsFit (versionKey ++ List.replicate 34 0x61) := by
  intro stringsFit
  have short : FitsBuffer (versionKey ++ List.replicate 34 0x61) := by decide
  have lengths := stringsFit_iff_values.mp stringsFit short
  exact absurd lengths.1 (by decide)

end InspurIpmi
