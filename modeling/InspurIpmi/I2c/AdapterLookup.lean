import InspurIpmi.I2c.AdapterTable

/-!
# Looking up a bus

What `lookup_i2c_bus` answers to a number, and to a name when `/proc/bus/i2c` lists
the adapters.
-/

set_option autoImplicit false

namespace InspurIpmi

open Foundation

/-!
## Names
-/

theorem matchAdapter_found {busName : CString} {i2cbus : Int} (found : 0 ≤ i2cbus)
    (adapters : List I2cAdap) :
    matchAdapter busName i2cbus adapters =
      if adapters.any (fun adapter => adapter.name = busName) then -4 else i2cbus := by
  induction adapters with
  | nil => rfl
  | cons adapter rest ih =>
      rw [matchAdapter, List.any_cons]
      by_cases named : adapter.name = busName
      · simp only [named, found, if_true, decide_true, Bool.true_or]
      · simp only [named, if_false, decide_false, Bool.false_or, ih]

/-- The answer of the lookup from the numbers of the buses with the name. -/
def busNumber : List Int → Int
  | [] => -1
  | [i2cbus] => i2cbus
  | _ :: _ :: _ => -4

theorem matchAdapter_eq {busName : CString} {adapters : List I2cAdap}
    (valid : ∀ adapter ∈ adapters, 0 ≤ adapter.nr) :
    matchAdapter busName (-1) adapters =
      busNumber ((adapters.filter fun adapter => adapter.name = busName).map I2cAdap.nr) := by
  induction adapters with
  | nil => rfl
  | cons adapter rest ih =>
      obtain ⟨first, others⟩ := List.forall_mem_cons.mp valid
      rw [matchAdapter]
      by_cases named : adapter.name = busName
      · have negative : ¬ (0 : Int) ≤ -1 := by decide
        rw [if_pos named, if_neg negative, matchAdapter_found first]
        simp only [List.filter_cons, named, decide_true, if_true, List.map_cons]
        cases more : rest.filter fun adapter => adapter.name = busName with
        | nil =>
            have none : rest.any (fun adapter => adapter.name = busName) = false :=
              List.any_eq_false.mpr (List.filter_eq_nil_iff.mp more)
            rw [none]
            rfl
        | cons second more' =>
            have member : second ∈ rest.filter fun adapter => adapter.name = busName :=
              more ▸ List.mem_cons_self
            have again : rest.any (fun adapter => adapter.name = busName) = true :=
              List.any_eq_true.mpr ⟨second, List.mem_filter.mp member⟩
            rw [again]
            rfl
      · rw [if_neg named, ih others, List.filter_cons_of_neg (by simp [named])]

/-!
## Lines of `/proc/bus/i2c`
-/

/-- A text and the blanks that fill it up. -/
structure ProcField where
  text : CString
  padding : ℕ
  endless : Char.ofNat 0 ∉ text
  tabless : '\t' ∉ text
  lineless : '\n' ∉ text
  trimmed : ∀ char ∈ text.getLast?, char ≠ ' '

def ProcField.written (field : ProcField) : CString :=
  field.text ++ List.replicate field.padding ' '

def busText (number : ℕ) : CString := "i2c-".toList ++ Nat.toDigits 10 number

def procLine (number : ℕ) (type name algo : ProcField) : CString :=
  busText number ++ '\t' :: type.written ++ '\t' :: name.written ++ '\t' :: algo.written

/-- An adapter as the kernel writes it, on one line of the file. -/
structure ProcRow where
  number : ℕ
  type : ProcField
  name : ProcField
  algo : ProcField
  small : number < 2 ^ 31
  fits : (procLine number type name algo).length < 119

namespace ProcRow

def line (row : ProcRow) : CString := procLine row.number row.type row.name row.algo

def adapter (row : ProcRow) : Adapter where
  nr := row.number
  name := row.name.text
  funcs := row.type.text
  algo := row.algo.text

def fileText (rows : List ProcRow) : CString := rows.flatMap fun row => row.line ++ ['\n']

end ProcRow

theorem ProcField.tabless_written (field : ProcField) : '\t' ∉ field.written := by
  intro member
  rcases List.mem_append.mp member with text | blank
  · exact field.tabless text
  · exact absurd (List.eq_of_mem_replicate blank) (by decide)

theorem ProcField.lineless_written (field : ProcField) : '\n' ∉ field.written := by
  intro member
  rcases List.mem_append.mp member with text | blank
  · exact field.lineless text
  · exact absurd (List.eq_of_mem_replicate blank) (by decide)

theorem ProcField.rtrim_written (field : ProcField) {ending : CString}
    (blank : ∀ char ∈ ending, char = '\n') : rtrim (field.written ++ ending) = field.text := by
  rw [rtrim, ProcField.written, List.append_assoc]
  refine rdropWhile_append (fun char member => ?_) fun char last => ?_
  · rcases List.mem_append.mp member with padded | ended
    · simp [List.eq_of_mem_replicate padded]
    · simp [blank char ended]
  · have visible := field.trimmed char last
    have inside : char ≠ '\n' := fun same => field.lineless (same ▸ List.mem_of_mem_getLast? last)
    simp [visible, inside]

theorem toDigits_notMem {char : Char} (other : char.isDigit = false) (number : ℕ) :
    char ∉ Nat.toDigits 10 number := by
  intro member
  rw [Nat.isDigit_of_mem_toDigits (by decide) (by decide) member] at other
  cases other

theorem ProcRow.lineless (row : ProcRow) : '\n' ∉ row.line := by
  simp only [ProcRow.line, procLine, busText, List.mem_append, List.mem_cons, not_or]
  refine ⟨⟨⟨⟨by decide, ?_⟩, by decide, ?_⟩, by decide, ?_⟩, by decide, ?_⟩
  · exact toDigits_notMem (by decide) row.number
  · exact row.type.lineless_written
  · exact row.name.lineless_written
  · exact row.algo.lineless_written

theorem procFields_line (row : ProcRow) :
    procFields (row.line ++ ['\n']) =
      some (busText row.number, row.type.text, row.name.text, row.algo.text) := by
  have tabless : '\t' ∉ row.algo.written ++ ['\n'] := by
    intro member
    rcases List.mem_append.mp member with text | ended
    · exact row.algo.tabless_written text
    · exact absurd (List.mem_singleton.mp ended) (by decide)
  have type := row.type.rtrim_written (List.forall_mem_nil _)
  have name := row.name.rtrim_written (List.forall_mem_nil _)
  have algo : rtrim (row.algo.written ++ ['\n']) = row.algo.text :=
    row.algo.rtrim_written fun char member => List.mem_singleton.mp member
  rw [List.append_nil] at type name
  rw [ProcRow.line, procLine, List.append_assoc, List.cons_append, procFields,
    cutLast_append _ tabless]
  simp only [Option.bind_eq_bind, Option.bind_some]
  rw [cutLast_append _ row.name.tabless_written]
  simp only [Option.bind_some]
  rw [cutLast_append _ row.type.tabless_written]
  simp only [Option.bind_some, type, name, algo]
  rfl

theorem procAdapter_line (calls : AdapterCalls) (slot : ℕ) (row : ProcRow) :
    procAdapter calls slot (row.line ++ ['\n']) = some row.adapter := by
  have number := scanDecimal_toDigits row.small (endsNumber_nil 10)
  rw [List.append_nil] at number
  rw [procAdapter, procFields_line]
  simp only [Option.bind_eq_bind, Option.bind_some, busText, scanDecimalAfter_append, number]
  rfl

theorem offered_lines (calls : AdapterCalls) (slot : ℕ) (rows : List ProcRow) :
    offered (procOffer calls) slot (rows.map fun row => row.line ++ ['\n']) =
      .ok (rows.map ProcRow.adapter) := by
  induction rows generalizing slot with
  | nil => rfl
  | cons row rows ih =>
      rw [List.map_cons, offered, procOffer, procAdapter_line]
      simp only [ih]
      rfl

/-- Reading the file gives the adapters that were written into it. -/
theorem listed_fileText {calls : AdapterCalls} {rows : List ProcRow}
    (file : calls.file "/proc/bus/i2c".toList = some (ProcRow.fileText rows)) :
    calls.listed = .ok (rows.map ProcRow.adapter) := by
  have lines : fgetsLines '\n' 119 [] (ProcRow.fileText rows) =
      rows.map fun row => row.line ++ ['\n'] := by
    have single : ∀ line ∈ rows.map ProcRow.line, '\n' ∉ line :=
      List.forall_mem_map.mpr fun row _ => row.lineless
    have fits : ∀ line ∈ rows.map ProcRow.line, line.length + 1 ≤ 119 :=
      List.forall_mem_map.mpr fun row _ => row.fits
    have whole := fgetsLines_flatMap single fits
    rw [List.flatMap_map, List.map_map] at whole
    exact whole
  rw [AdapterCalls.listed, file]
  simp only [lines, offered_lines]

/-!
## Lookups
-/

/-- What is looked up when every request of the heap is granted, or one is refused. -/
def AdapterCalls.gathered (calls : AdapterCalls) (adapters : List Adapter) : Option (List I2cAdap) :=
  if ∀ request < requestsFor adapters.length, calls.grants request = true then
    some (adapters.map Adapter.toI2cAdap)
  else none

/-- A lookup answers from the listed adapters, and leaves no block of the heap behind. -/
theorem lookupGathered_eq {calls : AdapterCalls} {adapters : List Adapter}
    (listed : calls.listed = .ok adapters) (busName : CString) :
    ∃ streams ≤ (calls.leftOpen + 1 : Int),
      lookupGathered calls busName =
        .ok (lookupI2cBusByName (calls.gathered adapters) busName, 0, streams) := by
  have gathers := gatherI2cBusses_gathers calls
  rw [lookupGathered]
  cases ran : gatherI2cBusses calls with
  | ok final =>
      rw [ran] at gathers
      obtain ⟨found, same, holds, streams⟩ := gathers
      rw [listed] at same
      cases same
      have granted : ∀ request < requestsFor adapters.length, calls.grants request = true := by
        rw [← holds.requests]
        exact holds.granted
      refine ⟨final.streams, by omega, ?_⟩
      simp only [holds.table.walk_eq, holds.blocks, freeAdapters_eq holds.table,
        AdapterCalls.gathered, if_pos granted, lookupI2cBusByName]
  | error ending =>
      rw [ran] at gathers
      cases ending with
      | outOfMemory blocks left =>
          obtain ⟨freed, _, high, _, refuses⟩ := gathers
          have refused : ¬ ∀ request < requestsFor adapters.length, calls.grants request = true :=
            fun granted => AdapterCalls.not_refuses granted (refuses adapters listed)
          refine ⟨left, high, ?_⟩
          simp only [AdapterCalls.gathered, if_neg refused, lookupI2cBusByName, freed]
      | crashed fault =>
          have crashed : calls.listed = .error fault := gathers
          rw [listed] at crashed
          cases crashed

theorem leftOpen_of_proc {calls : AdapterCalls} {text : CString}
    (file : calls.file "/proc/bus/i2c".toList = some text) : calls.leftOpen = 0 := by
  rw [AdapterCalls.leftOpen, file]

theorem numbers_named (busName : CString) (rows : List ProcRow) :
    ((((rows.map ProcRow.adapter).map Adapter.toI2cAdap).filter
        fun adapter => adapter.name = busName).map I2cAdap.nr) =
      (rows.filter fun row => row.name.text = busName).map fun row => (row.number : Int) := by
  simp only [List.filter_map, List.map_map]
  rfl

/-- A name that is written into the file is found as the number written beside it, and
only there: `-1` says that no adapter has it, `-4` that several have it, and `-3` that
the heap refused a request. -/
theorem lookup_of_written_name {calls : AdapterCalls} {rows : List ProcRow} {busName : CString}
    (file : calls.file "/proc/bus/i2c".toList = some (ProcRow.fileText rows))
    (unnumbered : (strtoul busName).2 ≠ [] ∨ busName = []) :
    ∃ streams ≤ (1 : Int), lookupBus calls busName =
      .ok (if ∀ request < requestsFor rows.length, calls.grants request = true then
          busNumber ((rows.filter fun row => row.name.text = busName).map fun row => (row.number : Int))
        else -3, 0, streams) := by
  obtain ⟨streams, few, looked⟩ := lookupGathered_eq (listed_fileText file) busName
  rw [leftOpen_of_proc file] at few
  refine ⟨streams, few, ?_⟩
  have valid : ∀ adapter ∈ (rows.map ProcRow.adapter).map Adapter.toI2cAdap, 0 ≤ adapter.nr := by
    simp only [List.forall_mem_map]
    exact fun row _ => Int.natCast_nonneg row.number
  have named := @matchAdapter_eq busName _ valid
  rw [numbers_named] at named
  simp only [lookupBus, unnumbered, if_true, looked, AdapterCalls.gathered, List.length_map]
  by_cases granted : ∀ request < requestsFor rows.length, calls.grants request = true
  · simp only [if_pos granted, lookupI2cBusByName, named]
  · simp only [if_neg granted, lookupI2cBusByName]

/-- A system that lists the adapters in `/proc/bus/i2c` and has all the memory it
needs. -/
def procCalls (rows : List ProcRow) : AdapterCalls where
  file path := if path = "/proc/bus/i2c".toList then some (ProcRow.fileText rows) else none
  directory _ := none
  nodes _ := none
  funcs _ := none
  grants _ := true
  strayAdapter _ := none
  strayNumber _ := 0
  strayMount := ([], [])

def smbusRow : ProcRow where
  number := 3
  type := ⟨['s', 'm', 'b', 'u', 's'], 5, by decide, by decide, by decide, by simp⟩
  name := ⟨['P', 'I', 'I', 'X', '4'], 2, by decide, by decide, by decide, by simp⟩
  algo := ⟨['N', 'o', 'n'], 0, by decide, by decide, by decide, by simp⟩
  small := by decide
  fits := by decide

theorem lookup_of_written_name_smbus :
    ∃ streams ≤ (1 : Int),
      lookupBus (procCalls [smbusRow]) smbusRow.name.text = .ok (3, 0, streams) :=
  @lookup_of_written_name (procCalls [smbusRow]) [smbusRow] smbusRow.name.text rfl (by decide)

/-!
## Numbers
-/

/-- The two ways to write a number. -/
def numberTexts (number : ℕ) : List CString :=
  [Nat.toDigits 10 number, '0' :: 'x' :: Nat.toDigits 16 number]

theorem parseInteger_numberTexts {number : ℕ} {text : CString} (written : text ∈ numberTexts number) :
    text ≠ [] ∧ parseInteger text = ⟨false, number, []⟩ := by
  rcases List.mem_cons.mp written with decimal | other
  · subst decimal
    exact ⟨Nat.toDigits_ne_nil, parseInteger_toDigits number⟩
  · cases List.mem_singleton.mp other
    exact ⟨List.cons_ne_nil _ _, parseInteger_hexDigits number⟩

/-- Every number is read back from both of its texts, and refused exactly outside its
range, however large it is. -/
theorem number_arguments_read_back (calls : AdapterCalls) (number : ℕ) (allAddrs : Bool) :
    ∀ text ∈ numberTexts number,
      lookupBus calls text = .ok (if number ≤ 0xFFFFF then (number : Int) else -2, 0, 0) ∧
        parseI2cAddress text allAddrs =
          if (if allAddrs then 0x00 else 0x03) ≤ number ∧ number ≤ (if allAddrs then 0x7F else 0x77) then
            (number : Int)
          else -2 := by
  intro text written
  obtain ⟨nonempty, parsed⟩ := parseInteger_numberTexts written
  constructor
  · simp only [lookupBus, strtoul, parsed, nonempty, ne_eq, not_true, or_self, if_false,
      Bool.false_eq_true]
    by_cases large : 2 ^ 32 ≤ number
    · have outside : ¬ number ≤ 0xFFFFF := by omega
      have top : 0xFFFFF < 2 ^ 32 - 1 := by decide
      simp only [large, outside, top, if_true, if_false]
    · simp only [large, if_false]
      split <;> split <;> first | rfl | omega
  · simp only [parseI2cAddress, strtol, parsed, nonempty, ne_eq, not_true, or_self, if_false,
      Bool.false_eq_true]
    cases allAddrs <;> simp only [Bool.false_eq_true, if_true, if_false] <;>
      split <;> split <;> omega

theorem number_arguments_read_back_0x13 :
    lookupBus (procCalls []) "0x13".toList = .ok (19, 0, 0) ∧
      parseI2cAddress "0x13".toList false = 19 :=
  number_arguments_read_back (procCalls []) 19 false _ (by decide)

end InspurIpmi
