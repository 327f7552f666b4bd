import InspurIpmi.I2c.Adapters

/-!
# The table of the gathered adapters

Both places that list adapters are read by one kind of step. It keeps the table
terminated, sized by its count, and paid for by heap requests that were all granted.
-/

set_option autoImplicit false

namespace InspurIpmi

open Foundation

def tableSize (count : ℕ) : ℕ := bunch * (count / bunch + 1)

/-- One request for the table, one for each name, and one whenever the table grew. -/
def requestsFor (count : ℕ) : ℕ := 1 + count + count / bunch

theorem requestsFor_pos (count : ℕ) : 0 < requestsFor count := by
  rw [requestsFor, Nat.add_assoc]
  exact Nat.lt_of_lt_of_le Nat.one_pos (Nat.le_add_right _ _)

structure Gathering.Holds (calls : AdapterCalls) (gathering : Gathering) (adapters : List Adapter) :
    Prop where
  table : gathering.adapters.Holds adapters
  size : gathering.adapters.size = tableSize adapters.length
  count : gathering.count = adapters.length
  requests : gathering.requests = requestsFor adapters.length
  blocks : gathering.blocks = adapters.length + 1
  granted : ∀ request < gathering.requests, calls.grants request = true

variable {calls : AdapterCalls} {gathering : Gathering} {adapters : List Adapter}

/-!
## Storing one adapter
-/

theorem freeAdapters_eq {table : TerminatedTable Adapter} (holds : table.Holds adapters) :
    freeAdapters table (adapters.length + 1) = .ok 0 := by
  rw [freeAdapters, holds.walk_eq]
  exact congrArg Except.ok (by omega)

theorem giveUp_eq (holds : gathering.adapters.Holds adapters)
    (blocks : gathering.blocks = adapters.length + 1) :
    giveUp gathering = .error (.outOfMemory 0 gathering.streams) := by
  rw [giveUp, blocks, freeAdapters_eq holds]
  rfl

/-- What an allocation that is refused says about the heap. -/
def AdapterCalls.Refuses (calls : AdapterCalls) (count : ℕ) : Prop :=
  ∃ request < requestsFor count, calls.grants request = false

theorem AdapterCalls.Refuses.mono {count more : ℕ} (refuses : calls.Refuses count)
    (enough : count ≤ more) : calls.Refuses more := by
  obtain ⟨request, below, refused⟩ := refuses
  have grown : count / bunch ≤ more / bunch := Nat.div_le_div_right enough
  refine ⟨request, ?_, refused⟩
  simp only [requestsFor] at below ⊢
  omega

theorem AdapterCalls.not_refuses {count : ℕ}
    (granted : ∀ request < requestsFor count, calls.grants request = true) :
    ¬ calls.Refuses count := by
  rintro ⟨request, below, refused⟩
  rw [granted request below] at refused
  cases refused

/-- The state in front of the name's allocation: the table has room for one adapter
more, and its growth, if any, is paid for. -/
structure Gathering.Ready (calls : AdapterCalls) (gathering : Gathering) (adapters : List Adapter) :
    Prop where
  table : gathering.adapters.Holds adapters
  room : adapters.length + 1 < gathering.adapters.size
  size : gathering.adapters.size = tableSize (adapters.length + 1)
  count : gathering.count = adapters.length
  requests : gathering.requests + 1 = requestsFor (adapters.length + 1)
  blocks : gathering.blocks = adapters.length + 1
  granted : ∀ request < gathering.requests, calls.grants request = true

theorem Gathering.Holds.makeRoom (holds : gathering.Holds calls adapters) :
    (∃ next, makeRoom calls gathering = .ok next ∧ next.Ready calls adapters ∧
        next.streams = gathering.streams) ∨
      (makeRoom calls gathering = .error (.outOfMemory 0 gathering.streams) ∧
        calls.Refuses (adapters.length + 1)) := by
  have size := holds.size
  have requests := holds.requests
  simp only [tableSize, requestsFor, bunch] at size requests
  rw [InspurIpmi.makeRoom, holds.count]
  by_cases full : (adapters.length + 1) % bunch = 0
  · rw [if_pos full]
    simp only [bunch] at full
    -- The count that is passed on is the size the table has.
    have matched : adapters.length + 1 = gathering.adapters.size := by omega
    cases granted : calls.grants gathering.requests with
    | true =>
        have enlarged := holds.table.enlarge calls.strayAdapter bunch
        rw [← matched] at enlarged
        refine .inl ⟨_, if_pos granted, ⟨enlarged, ?_, ?_, holds.count, ?_, holds.blocks, ?_⟩, rfl⟩
        · simp only [TerminatedTable.enlarge, bunch]
          omega
        · simp only [TerminatedTable.enlarge, tableSize, bunch]
          omega
        · simp only [requestsFor, bunch]
          omega
        · intro request below
          rcases Nat.lt_succ_iff_lt_or_eq.mp below with before | rfl
          · exact holds.granted request before
          · exact granted
    | false =>
        refine .inr ⟨?_, gathering.requests, ?_, granted⟩
        · rw [moreAdapters, granted]
          exact giveUp_eq holds.table holds.blocks
        · simp only [requestsFor, bunch]
          omega
  · rw [if_neg full]
    simp only [bunch] at full
    refine .inl ⟨gathering, rfl, ⟨holds.table, ?_, ?_, holds.count, ?_, holds.blocks,
      holds.granted⟩, rfl⟩
    · omega
    · simp only [tableSize, bunch]
      omega
    · simp only [requestsFor, bunch]
      omega

theorem Gathering.Holds.store (holds : gathering.Holds calls adapters) (adapter : Adapter) :
    (∃ next, storeAdapter calls adapter gathering = .ok next ∧
        next.Holds calls (adapters ++ [adapter]) ∧ next.streams = gathering.streams) ∨
      (storeAdapter calls adapter gathering = .error (.outOfMemory 0 gathering.streams) ∧
        calls.Refuses (adapters.length + 1)) := by
  rcases holds.makeRoom with ⟨middle, grew, ready, streams⟩ | ⟨gaveUp, refuses⟩
  · rw [← streams]
    cases granted : calls.grants middle.requests with
    | true =>
        obtain ⟨table, stored, size, table_holds⟩ := ready.table.put adapter ready.room
        have length : (adapters ++ [adapter]).length = adapters.length + 1 := by simp
        have ran : storeAdapter calls adapter gathering =
            .ok ⟨table, middle.count + 1, middle.requests + 1, middle.blocks + 1,
              middle.streams⟩ := by
          rw [← ready.count] at stored
          rw [storeAdapter, grew]
          simp only [bind, Except.bind, granted, if_true, stored]
          rfl
        rw [ran, ready.count]
        refine .inl ⟨_, rfl, ⟨table_holds, ?_, ?_, ?_, ?_, ?_⟩, rfl⟩
        · rw [length, ← ready.size]
          exact size
        · rw [length]
        · rw [length]
          exact ready.requests
        · simp only [length, ready.blocks, Nat.cast_add, Nat.cast_one]
        · intro request below
          rcases Nat.lt_succ_iff_lt_or_eq.mp below with before | rfl
          · exact ready.granted request before
          · exact granted
    | false =>
        refine .inr ⟨?_, middle.requests, Nat.lt_of_succ_le (Nat.le_of_eq ready.requests), granted⟩
        rw [storeAdapter, grew]
        simp only [bind, Except.bind, granted, if_neg Bool.false_ne_true]
        exact giveUp_eq ready.table ready.blocks
  · refine .inr ⟨?_, refuses⟩
    rw [storeAdapter, gaveUp]
    rfl

/-!
## Reading a whole list
-/

section Reading

variable {ι : Type}

/-- What one item of the list offers to a slot: an adapter, nothing, or a crash. -/
abbrev Offer (ι : Type) : Type := ℕ → ι → Except GatherFault (Option Adapter)

def Gathering.leaving (gathering : Gathering) (opened : Bool) : Gathering :=
  { gathering with streams := if opened then gathering.streams + 1 else gathering.streams }

theorem Gathering.Holds.leaving (holds : gathering.Holds calls adapters) (opened : Bool) :
    (gathering.leaving opened).Holds calls adapters :=
  ⟨holds.table, holds.size, holds.count, holds.requests, holds.blocks, holds.granted⟩

/-- One step over an item; `opens` says which items leave a stream open. -/
def gatherStep (calls : AdapterCalls) (offer : Offer ι) (opens : ι → Bool) (gathering : Gathering)
    (item : ι) : Except GatherEnd Gathering :=
  match offer gathering.count item with
  | .ok (some adapter) => storeAdapter calls adapter (gathering.leaving (opens item))
  | .ok none => .ok (gathering.leaving (opens item))
  | .error fault => .error (.crashed fault)

/-- The adapters that a list offers, when its first one goes to slot `slot`. -/
def offered (offer : Offer ι) : ℕ → List ι → Except GatherFault (List Adapter)
  | _, [] => .ok []
  | slot, item :: rest =>
      match offer slot item with
      | .ok (some adapter) => (offered offer (slot + 1) rest).map (adapter :: ·)
      | .ok none => offered offer slot rest
      | .error fault => .error fault

/-- How a list is read into a table that holds `adapters`. -/
def ReadsAs (calls : AdapterCalls) (adapters : List Adapter) (streams : Int)
    (listed : Except GatherFault (List Adapter)) (opened : ℕ) : Except GatherEnd Gathering → Prop
  | .ok final =>
      ∃ more, listed = .ok more ∧ final.Holds calls (adapters ++ more) ∧
        final.streams = streams + opened
  | .error (.outOfMemory blocks left) =>
      blocks = 0 ∧ streams ≤ left ∧ left ≤ streams + opened ∧ (∃ request, calls.grants request = false) ∧
        ∀ more, listed = .ok more → calls.Refuses (adapters.length + more.length)
  | .error (.crashed fault) => listed = .error fault

variable {offer : Offer ι}

/-- Reading the rest into a table with one adapter more. -/
theorem ReadsAs.cons {adapter : Adapter} {streams : Int}
    {listed : Except GatherFault (List Adapter)} {opened : ℕ} {result : Except GatherEnd Gathering}
    (rest : ReadsAs calls (adapters ++ [adapter]) streams listed opened result) :
    ReadsAs calls adapters streams (listed.map (adapter :: ·)) opened result := by
  cases result with
  | ok final =>
      obtain ⟨more, read, holds, left⟩ := rest
      refine ⟨adapter :: more, by rw [read]; rfl, ?_, left⟩
      rw [List.append_assoc] at holds
      exact holds
  | error ending =>
      cases ending with
      | outOfMemory blocks left =>
          obtain ⟨freed, low, high, refused, refuses⟩ := rest
          refine ⟨freed, low, high, refused, fun more read => ?_⟩
          cases listed with
          | error fault => cases read
          | ok others =>
              cases read
              have longer := refuses others rfl
              simp only [List.length_append, List.length_cons, List.length_nil] at longer ⊢
              exact longer.mono (by omega)
      | crashed fault =>
          have crashed : listed = .error fault := rest
          rw [crashed]
          rfl

/-- One stream opened before the rest is read. -/
theorem ReadsAs.opened {streams : Int} {listed : Except GatherFault (List Adapter)} {opened : ℕ}
    {result : Except GatherEnd Gathering}
    (rest : ReadsAs calls adapters (streams + 1) listed opened result) :
    ReadsAs calls adapters streams listed (opened + 1) result := by
  cases result with
  | ok final =>
      obtain ⟨more, read, holds, left⟩ := rest
      exact ⟨more, read, holds, by omega⟩
  | error ending =>
      cases ending with
      | outOfMemory blocks left =>
          obtain ⟨freed, low, high, refuses⟩ := rest
          exact ⟨freed, by omega, by omega, refuses⟩
      | crashed fault => exact rest

theorem gatherStep_reads (opens : ι → Bool) (holds : gathering.Holds calls adapters) (item : ι)
    (rest : List ι)
    (ih : ∀ {next : Gathering} {more : List Adapter}, next.Holds calls more →
      ReadsAs calls more next.streams (offered offer more.length rest) (rest.countP opens)
        (rest.foldlM (gatherStep calls offer opens) next)) :
    ReadsAs calls adapters (gathering.leaving (opens item)).streams
      (offered offer adapters.length (item :: rest)) (rest.countP opens)
      ((item :: rest).foldlM (gatherStep calls offer opens) gathering) := by
  have opened := holds.leaving (opens item)
  have slot := holds.count
  rw [List.foldlM_cons, gatherStep, offered, ← slot]
  cases offer gathering.count item with
  | error fault => rfl
  | ok found =>
      cases found with
      | none =>
          have read := ih opened
          rw [← slot] at read
          exact read
      | some adapter =>
          rcases opened.store adapter with ⟨next, stored, more, streams⟩ | ⟨gaveUp, refuses⟩
          · have read := ih more
            rw [List.length_append, List.length_singleton, streams, ← slot] at read
            simp only [stored]
            exact read.cons
          · obtain ⟨request, below, refused⟩ := refuses
            simp only [gaveUp]
            refine ⟨rfl, Int.le_refl _, by omega, ⟨request, refused⟩, fun more read => ?_⟩
            cases others : offered offer (gathering.count + 1) rest with
            | error fault =>
                rw [others] at read
                cases read
            | ok list =>
                rw [others] at read
                cases read
                have here : calls.Refuses (adapters.length + 1) := ⟨request, below, refused⟩
                exact here.mono (by simp)

theorem foldlM_gatherStep (offer : Offer ι) (opens : ι → Bool) (items : List ι)
    (holds : gathering.Holds calls adapters) :
    ReadsAs calls adapters gathering.streams (offered offer adapters.length items)
      (items.countP opens) (items.foldlM (gatherStep calls offer opens) gathering) := by
  induction items generalizing gathering adapters with
  | nil =>
      refine ⟨[], rfl, ?_, by simp⟩
      rw [List.append_nil]
      exact holds
  | cons item rest ih =>
      have read := gatherStep_reads opens holds item rest ih
      rw [List.countP_cons]
      cases opened : opens item with
      | false =>
          rw [opened] at read
          exact read
      | true =>
          rw [opened] at read
          exact read.opened

end Reading

/-!
## The two lists
-/

def procOffer (calls : AdapterCalls) : Offer CString := fun slot line =>
  match procAdapter calls slot line with
  | some adapter => .ok (some adapter)
  | none => .error .nullPointer

def sysfsOffer (calls : AdapterCalls) (sysfs : CString) : Offer CString := fun slot entry =>
  if isDot entry then .ok none
  else .ok ((findName calls sysfs entry).1.bind (sysfsAdapter calls slot entry))

def opensDevice (calls : AdapterCalls) (sysfs entry : CString) : Bool :=
  !isDot entry && (findName calls sysfs entry).2

theorem procStep_eq : procStep calls = gatherStep calls (procOffer calls) fun _ => false := by
  funext gathering line
  rw [procStep, gatherStep, procOffer]
  cases procAdapter calls gathering.count line with
  | none => rfl
  | some adapter => rfl

theorem sysfsStep_eq (sysfs : CString) :
    sysfsStep calls sysfs = gatherStep calls (sysfsOffer calls sysfs) (opensDevice calls sysfs) := by
  funext gathering entry
  rw [sysfsStep, gatherStep, sysfsOffer, opensDevice]
  cases isDot entry with
  | true => rfl
  | false =>
      simp only [Bool.false_eq_true, if_false, Bool.not_false, Bool.true_and]
      cases (findName calls sysfs entry).1.bind (sysfsAdapter calls gathering.count entry) with
      | none => rfl
      | some adapter => rfl

/-- The directory of `sysfs` that lists the buses. -/
def AdapterCalls.busDirectory (calls : AdapterCalls) : Option CString :=
  ((calls.file "/proc/mounts".toList).bind fun text =>
    findSysfs calls.strayMount (fgetsLines '\n' (nameMax - 1) [] text)).map
      (· ++ "/class/i2c-dev".toList)

/-- The adapters that the system lists, without a word of how they are stored. -/
def AdapterCalls.listed (calls : AdapterCalls) : Except GatherFault (List Adapter) :=
  match calls.file "/proc/bus/i2c".toList, calls.busDirectory with
  | some text, _ => offered (procOffer calls) 0 (fgetsLines '\n' 119 [] text)
  | none, some sysfs =>
      if nameMax ≤ sysfs.length then .error .pathOverflow
      else offered (sysfsOffer calls sysfs) 0 ((calls.directory sysfs).getD [])
  | none, none => .ok []

/-- The streams that are never closed: one for each bus whose name is looked for below
its device. -/
def AdapterCalls.leftOpen (calls : AdapterCalls) : ℕ :=
  match calls.file "/proc/bus/i2c".toList, calls.busDirectory with
  | none, some sysfs => ((calls.directory sysfs).getD []).countP (opensDevice calls sysfs)
  | _, _ => 0

theorem holds_start (granted : calls.grants 0 = true) (streams : Int) :
    Gathering.Holds calls ⟨.cleared bunch, 0, 1, 1, streams⟩ [] := by
  refine ⟨TerminatedTable.holds_cleared (by decide), rfl, rfl, rfl, rfl, fun request below => ?_⟩
  rw [Nat.lt_one_iff.mp below]
  exact granted

/-- Reading a list through an open stream, which is closed behind it. -/
theorem reads_closing {ι : Type} (offer : Offer ι) (opens : ι → Bool) (items : List ι)
    (granted : calls.grants 0 = true) :
    ReadsAs calls [] 0 (offered offer 0 items) (items.countP opens + 1)
      (items.foldlM (gatherStep calls offer opens) ⟨.cleared bunch, 0, 1, 1, 1⟩) := by
  exact (foldlM_gatherStep offer opens items (holds_start granted 1)).opened

/-- How gathering ends, from the list that the system has. -/
def AdapterCalls.GathersAs (calls : AdapterCalls) : Except GatherEnd Gathering → Prop
  | .ok final =>
      ∃ adapters, calls.listed = .ok adapters ∧ final.Holds calls adapters ∧
        final.streams = calls.leftOpen
  | .error (.outOfMemory blocks left) =>
      blocks = 0 ∧ 0 ≤ left ∧ left ≤ calls.leftOpen + 1 ∧ (∃ request, calls.grants request = false) ∧
        ∀ adapters, calls.listed = .ok adapters → calls.Refuses adapters.length
  | .error (.crashed fault) => calls.listed = .error fault

theorem gathersAs_of_reads {ι : Type} {offer : Offer ι} {items : List ι}
    {result : Except GatherEnd Gathering} (listed : calls.listed = offered offer 0 items)
    (reads : ReadsAs calls [] 0 (offered offer 0 items) (calls.leftOpen + 1) result) :
    calls.GathersAs (result.map closeStream) := by
  rw [← listed] at reads
  cases result with
  | ok final =>
      obtain ⟨adapters, read, holds, streams⟩ := reads
      refine ⟨adapters, read, ?_, ?_⟩
      · exact ⟨holds.table, holds.size, holds.count, holds.requests, holds.blocks, holds.granted⟩
      · simp only [closeStream]
        omega
  | error ending =>
      cases ending with
      | outOfMemory blocks left =>
          obtain ⟨freed, low, high, refused, refuses⟩ := reads
          refine ⟨freed, low, by omega, refused, fun adapters read => ?_⟩
          have longer := refuses adapters read
          rw [List.length_nil, Nat.zero_add] at longer
          exact longer
      | crashed fault => exact reads

/-- A table that is returned empty, before a list was found. -/
theorem gathersAs_empty (granted : calls.grants 0 = true) (listed : calls.listed = .ok [])
    (closed : calls.leftOpen = 0) :
    calls.GathersAs (.ok ⟨.cleared bunch, 0, 1, 1, 0⟩) := by
  refine ⟨[], listed, holds_start granted 0, ?_⟩
  rw [closed]
  rfl

theorem gatherI2cBusses_gathers (calls : AdapterCalls) :
    calls.GathersAs (gatherI2cBusses calls) := by
  rw [gatherI2cBusses]
  cases granted : calls.grants 0 with
  | false =>
      refine ⟨rfl, Int.le_refl 0, by omega, ⟨0, granted⟩, fun adapters _ => ⟨0, ?_, granted⟩⟩
      exact requestsFor_pos adapters.length
  | true =>
      cases proc : calls.file "/proc/bus/i2c".toList with
      | some text =>
          have listed : calls.listed = offered (procOffer calls) 0 (fgetsLines '\n' 119 [] text) := by
            rw [AdapterCalls.listed, proc]
          have closed : calls.leftOpen = 0 := by rw [AdapterCalls.leftOpen, proc]
          have reads := reads_closing (procOffer calls) (fun _ => false)
            (fgetsLines '\n' 119 [] text) granted
          have none : (fgetsLines '\n' 119 [] text).countP (fun _ => false) = calls.leftOpen := by
            rw [closed, List.countP_false]
            rfl
          rw [← procStep_eq, none] at reads
          exact gathersAs_of_reads listed reads
      | none =>
          cases mounted : (calls.file "/proc/mounts".toList).bind fun text =>
              findSysfs calls.strayMount (fgetsLines '\n' (nameMax - 1) [] text) with
          | none =>
              have nowhere : calls.busDirectory = none := by
                rw [AdapterCalls.busDirectory, mounted]
                rfl
              exact gathersAs_empty granted (by rw [AdapterCalls.listed, proc, nowhere])
                (by rw [AdapterCalls.leftOpen, proc, nowhere])
          | some mount =>
              have found : calls.busDirectory = some (mount ++ "/class/i2c-dev".toList) := by
                rw [AdapterCalls.busDirectory, mounted]
                rfl
              have listed : calls.listed =
                  if nameMax ≤ (mount ++ "/class/i2c-dev".toList).length then .error .pathOverflow
                  else offered (sysfsOffer calls (mount ++ "/class/i2c-dev".toList)) 0
                    ((calls.directory (mount ++ "/class/i2c-dev".toList)).getD []) := by
                rw [AdapterCalls.listed, proc, found]
              have closed : calls.leftOpen =
                  ((calls.directory (mount ++ "/class/i2c-dev".toList)).getD []).countP
                    (opensDevice calls (mount ++ "/class/i2c-dev".toList)) := by
                rw [AdapterCalls.leftOpen, proc, found]
              by_cases long : nameMax ≤ (mount ++ "/class/i2c-dev".toList).length
              · rw [if_pos long] at listed
                simp only [long, if_true]
                exact listed
              · rw [if_neg long] at listed
                simp only [long, if_false]
                cases opened : calls.directory (mount ++ "/class/i2c-dev".toList) with
                | none =>
                    rw [opened] at listed closed
                    exact gathersAs_empty granted listed closed
                | some entries =>
                    rw [opened, Option.getD_some] at listed closed
                    have reads :=
                      reads_closing (sysfsOffer calls (mount ++ "/class/i2c-dev".toList))
                        (opensDevice calls (mount ++ "/class/i2c-dev".toList)) entries granted
                    rw [← sysfsStep_eq, ← closed] at reads
                    exact gathersAs_of_reads listed reads

end InspurIpmi
