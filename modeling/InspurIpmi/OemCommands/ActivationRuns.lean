import InspurIpmi.Foundation.Registers
import InspurIpmi.OemCommands.Activation

/-!
# Runs of activations

What many requests for the activation of the default user do to the user store,
one after another, each with its own network and its own setters. No request
changes what a later one is checked against, so each is answered as if it had
come alone.
-/

set_option autoImplicit false

namespace InspurIpmi

open Foundation

structure ActivationMessage where
  network : NetworkLayer
  calls : UserCalls
  userName : List UInt8
  userPassword : List UInt8

def ActivationMessage.answer (constants : ChannelConstants) (store : UserStore)
    (message : ActivationMessage) : Outcome OemException CompletionCode :=
  ((ipmiOEMSetUser2Activation constants message.network message.calls message.userName
    message.userPassword).run store).1

/-- An exception that leaves the handler keeps what was done to the store. -/
def ActivationMessage.after (constants : ChannelConstants) (store : UserStore)
    (message : ActivationMessage) : UserStore :=
  ((ipmiOEMSetUser2Activation constants message.network message.calls message.userName
    message.userPassword).run store).2

def storeAfter (constants : ChannelConstants) (store : UserStore)
    (messages : List ActivationMessage) : UserStore :=
  messages.foldl (fun reached message => message.after constants reached) store

def activationAnswers (constants : ChannelConstants) :
    UserStore → List ActivationMessage → List (Outcome OemException CompletionCode)
  | _, [] => []
  | store, message :: rest =>
      message.answer constants store ::
        activationAnswers constants (message.after constants store) rest

/-!
## Refusals
-/

theorem checkChannel_refusal {constants : ChannelConstants} {network : NetworkLayer}
    {channel : UInt8} {rc : CompletionCode}
    (refused : checkChannel constants network channel = .ok (some rc)) : rc ≠ ccSuccess := by
  unfold checkChannel at refused
  cases info : network.getChannelInfo channel with
  | error error =>
    rw [info] at refused
    cases error with
    | sdbus =>
      cases refused
      exact ccUnspecifiedError_ne_success
    | badVariantAccess => cases refused
    | other => cases refused
  | ok mediumType =>
    simp only [info] at refused
    split at refused
    · cases refused
      exact ccCommandNotAvailable_ne_success
    · split at refused
      · cases ipv6 : isDHCPIPv6Enabled network channel with
        | error error => simp [ipv6, bind, Except.bind] at refused
        | ok ipv6Enabled =>
          cases ipv4 : isDHCPEnabled network channel with
          | error error =>
            cases ipv6Enabled <;> simp [ipv6, ipv4, bind, Except.bind, pure, Except.pure] at refused
            exact refused ▸ ccCommandNotAvailable_ne_success
          | ok ipv4Enabled =>
            cases ipv6Enabled <;> cases ipv4Enabled <;>
              simp [ipv6, ipv4, bind, Except.bind, pure, Except.pure] at refused <;>
              exact refused ▸ ccCommandNotAvailable_ne_success
      · cases refused

/-- A loop leaves the function with a result of its body. -/
theorem forLoop_result {σ ε β : Type} {body : ℕ → Process σ ε (Option β)} {property : β → Prop}
    (each : ∀ index state result, ((body index).run state).1 = .returned (some result) →
      property result)
    {count : ℕ} {state : σ} {result : β}
    (left : ((Process.forLoop body count).run state).1 = .returned (some result)) :
    property result := by
  induction count with
  | zero => cases left
  | succ count ih =>
    rw [Process.run_forLoop_succ] at left
    rcases ran : (Process.forLoop body count).run state with ⟨outcome, reached⟩
    rw [ran] at left ih
    cases outcome with
    | returned value =>
      cases value with
      | none => exact each count reached result left
      | some earlier => exact ih left
    | thrown error => cases left
    | exited status => cases left

theorem liftNetwork_checkChannel_refusal {constants : ChannelConstants} {network : NetworkLayer}
    (index : ℕ) (store : UserStore) (rc : CompletionCode)
    (left : ((liftNetwork (checkChannel constants network (UInt8.ofNat index))).run store).1 =
      .returned (some rc)) : rc ≠ ccSuccess := by
  cases checked : checkChannel constants network (UInt8.ofNat index) with
  | error error =>
    rw [checked] at left
    cases left
  | ok refusal =>
    rw [checked] at left
    cases left
    exact checkChannel_refusal checked

theorem checkUsers_refusal {constants : ChannelConstants} {calls : UserCalls} {store : UserStore}
    {rc : CompletionCode}
    (refused : ((checkUsers constants calls).run store).1 = .returned (some rc)) :
    rc ≠ ccSuccess := by
  unfold checkUsers ipmiUserCheckEnabled at refused
  simp only [Process.run_ite] at refused
  split at refused
  · simp only [Process.run_bind, Process.run_ite, Process.run_gets] at refused
    split at refused
    · cases refused
      exact ccCommandNotAvailable_ne_success
    · split at refused
      · cases refused
        exact ccCommandNotAvailable_ne_success
      · cases refused
  · cases refused
    exact ccUnspecifiedError_ne_success

section Requests

variable {constants : ChannelConstants} {store : UserStore} {message : ActivationMessage}

/-- A request that the checks refuse is not answered with success, and leaves the store alone. -/
theorem ActivationMessage.refused
    (refused : ¬ Admitted constants message.network message.calls store) :
    message.answer constants store ≠ .returned ccSuccess ∧ message.after constants store = store := by
  constructor
  · intro success
    unfold answer ipmiOEMSetUser2Activation at success
    obtain ⟨outcome, ranChannels, channels⟩ := run_checkChannels constants message.network store
    cases outcome with
    | thrown error =>
      rw [Process.run_bind, ranChannels] at success
      cases success
    | exited status =>
      rw [Process.run_bind, ranChannels] at success
      cases success
    | returned refusal =>
      rw [Process.run_bind_returned ranChannels] at success
      cases refusal with
      | some rc =>
        cases success
        exact forLoop_result liftNetwork_checkChannel_refusal (congrArg Prod.fst ranChannels) rfl
      | none =>
        obtain ⟨refusal, ranUsers, users⟩ := run_checkUsers constants message.calls store
        rw [Process.run_bind_returned ranUsers] at success
        cases refusal with
        | some rc =>
          cases success
          exact checkUsers_refusal (congrArg Prod.fst ranUsers) rfl
        | none => exact refused ⟨channels.mp rfl, users.mp rfl⟩
  · obtain ⟨outcome, ran⟩ := run_activation_refused message.userName message.userPassword refused
    exact congrArg Prod.snd ran

theorem ActivationMessage.answer_admitted
    (admitted : Admitted constants message.network message.calls store) :
    message.answer constants store =
      ((createUser constants message.calls message.userName message.userPassword).run store).1 := by
  rw [answer, run_activation_admitted message.userName message.userPassword admitted]

theorem ActivationMessage.after_admitted
    (admitted : Admitted constants message.network message.calls store) :
    message.after constants store =
      ((createUser constants message.calls message.userName message.userPassword).run store).2 := by
  rw [after, run_activation_admitted message.userName message.userPassword admitted]

end Requests

/-!
## What a request writes
-/

section Writes

instance (constants : ChannelConstants) (network : NetworkLayer) (channel : UInt8) :
    Decidable (ChannelAdmitted constants network channel) :=
  decidable_of_iff _ checkChannel_eq_none_iff

instance (constants : ChannelConstants) (network : NetworkLayer) (calls : UserCalls)
    (store : UserStore) : Decidable (Admitted constants network calls store) :=
  decidable_of_iff
    ((∀ index < constants.maxIpmiChannels.toNat,
        ChannelAdmitted constants network (UInt8.ofNat index)) ∧
      calls.getAllCounts = ccSuccess ∧ calls.enabledUsers ≤ 1 ∧
        (calls.checkEnabled = ccSuccess → (store constants.ipmiDefaultUserId).enabled = false))
    ⟨fun all => ⟨forall_index_iff_channel.mp all.1, all.2⟩, fun admitted =>
      ⟨forall_index_iff_channel.mpr admitted.channels, admitted.users⟩⟩

variable (constants : ChannelConstants) (store : UserStore) (message : ActivationMessage)

/-- The request gets past the checks, and the user gets a name. -/
def ActivationMessage.Names : Prop :=
  Admitted constants message.network message.calls store ∧ message.calls.setUserName = ccSuccess

instance : Decidable (message.Names constants store) := inferInstanceAs (Decidable (_ ∧ _))

/-- The access to the first LAN channel that an activation gives. -/
def adminAccess : PrivAccess := ⟨constants.privilegeAdmin, true, true, true, 0⟩

/-- The name is taken back where a later setter fails, if the clearing call works. -/
def ActivationMessage.writtenName : Option (List UInt8) :=
  if message.Names constants store then
    if (message.calls.setUserPassword = ccSuccess ∧ message.calls.setPrivilegeAccess = ccSuccess) ∨
        message.calls.clearUserName ≠ ccSuccess then
      some (cString message.userName)
    else some []
  else none

def ActivationMessage.writtenPassword : Option (List UInt8) :=
  if message.Names constants store ∧ message.calls.setUserPassword = ccSuccess then
    some (cString message.userPassword)
  else none

def ActivationMessage.writtenAccess : Option PrivAccess :=
  if message.Names constants store ∧ message.calls.setUserPassword = ccSuccess ∧
      message.calls.setPrivilegeAccess = ccSuccess then
    some (adminAccess constants)
  else none

def ActivationMessage.written (user : UserRecord) : UserRecord where
  name := (message.writtenName constants store).getD user.name
  password := (message.writtenPassword constants store).getD user.password
  enabled := user.enabled
  privilege := Function.update user.privilege constants.chanLan1
    ((message.writtenAccess constants store).getD (user.privilege constants.chanLan1))

end Writes

section Effects

variable {constants : ChannelConstants} {store : UserStore} {message : ActivationMessage}

theorem run_createUser (calls : UserCalls) (userName userPassword : List UInt8) :
    ((createUser constants calls userName userPassword).run store).1 =
      .returned (if calls.setUserName = ccSuccess ∧ calls.setUserPassword = ccSuccess ∧
        calls.setPrivilegeAccess = ccSuccess then ccSuccess else ccCommandNotAvailable) := by
  by_cases named : calls.setUserName = ccSuccess
  · by_cases set : calls.setUserPassword = ccSuccess ∧ calls.setPrivilegeAccess = ccSuccess
    · rw [run_createUser_created named set.1 set.2, if_pos ⟨named, set⟩]
    · rw [run_createUser_undone named set, if_neg fun all => set all.2]
  · rw [run_createUser_unnamed named, if_neg fun all => named all.1]

theorem run_createUser_done {calls : UserCalls} {userName userPassword : List UInt8}
    (named : calls.setUserName = ccSuccess) (password : calls.setUserPassword = ccSuccess)
    (privilege : calls.setPrivilegeAccess = ccSuccess) :
    ((createUser constants calls userName userPassword).run store).2 =
      Function.update store constants.ipmiDefaultUserId
        { store constants.ipmiDefaultUserId with
          name := cString userName
          password := cString userPassword
          privilege := Function.update (store constants.ipmiDefaultUserId).privilege
            constants.chanLan1 (adminAccess constants) } := by
  simp [createUser, ipmiUserSetUserName, ipmiUserSetUserPassword, ipmiUserSetPrivilegeAccess,
    named, password, privilege, adminAccess]

/-- Success is the answer exactly where the access was given. -/
theorem ActivationMessage.answer_eq_success_iff :
    message.answer constants store = .returned ccSuccess ↔
      message.writtenAccess constants store ≠ none := by
  unfold writtenAccess
  by_cases admitted : Admitted constants message.network message.calls store
  · rw [answer_admitted admitted, run_createUser]
    by_cases set : message.calls.setUserName = ccSuccess ∧
        message.calls.setUserPassword = ccSuccess ∧ message.calls.setPrivilegeAccess = ccSuccess
    · have names : message.Names constants store := ⟨admitted, set.1⟩
      simp [names, set]
    · have incomplete : ¬ (message.Names constants store ∧
          message.calls.setUserPassword = ccSuccess ∧
          message.calls.setPrivilegeAccess = ccSuccess) := fun all => set ⟨all.1.2, all.2⟩
      rw [if_neg set, if_neg incomplete]
      simp
  · have unnamed : ¬ message.Names constants store := fun names => admitted names.1
    simp [(refused admitted).1, unnamed]

theorem ActivationMessage.written_eq_self (unnamed : ¬ message.Names constants store)
    (user : UserRecord) : message.written constants store user = user := by
  simp [written, writtenName, writtenPassword, writtenAccess, unnamed]

/-- What a request does to the store is what it writes to the default user. -/
theorem ActivationMessage.after_eq :
    message.after constants store = Function.update store constants.ipmiDefaultUserId
      (message.written constants store (store constants.ipmiDefaultUserId)) := by
  by_cases admitted : Admitted constants message.network message.calls store
  · rw [after_admitted admitted]
    by_cases named : message.calls.setUserName = ccSuccess
    · have names : message.Names constants store := ⟨admitted, named⟩
      by_cases set : message.calls.setUserPassword = ccSuccess ∧
          message.calls.setPrivilegeAccess = ccSuccess
      · rw [run_createUser_done named set.1 set.2]
        simp [written, writtenName, writtenPassword, writtenAccess, names, set]
      · rw [run_createUser_undone named set]
        unfold written writtenName writtenPassword writtenAccess leftBehind
        by_cases password : message.calls.setUserPassword = ccSuccess <;>
          by_cases cleared : message.calls.clearUserName = ccSuccess <;>
          simp_all
    · rw [run_createUser_unnamed named, written_eq_self fun names => named names.2]
      simp
  · rw [(refused admitted).2, written_eq_self fun names => admitted names.1]
    simp

end Effects

/-!
## What a request is checked against
-/

section Checks

variable {constants : ChannelConstants} {store other : UserStore} {message : ActivationMessage}

theorem admitted_congr {network : NetworkLayer} {calls : UserCalls}
    (same : (store constants.ipmiDefaultUserId).enabled =
      (other constants.ipmiDefaultUserId).enabled) :
    Admitted constants network calls store ↔ Admitted constants network calls other := by
  constructor
  · intro admitted
    exact ⟨admitted.channels, admitted.users.1, admitted.users.2.1, same ▸ admitted.users.2.2⟩
  · intro admitted
    exact ⟨admitted.channels, admitted.users.1, admitted.users.2.1, same ▸ admitted.users.2.2⟩

theorem ActivationMessage.names_congr
    (same : (store constants.ipmiDefaultUserId).enabled =
      (other constants.ipmiDefaultUserId).enabled) :
    message.Names constants store ↔ message.Names constants other :=
  and_congr_left fun _ => admitted_congr same

theorem ActivationMessage.written_congr
    (same : (store constants.ipmiDefaultUserId).enabled =
      (other constants.ipmiDefaultUserId).enabled) :
    message.writtenName constants store = message.writtenName constants other ∧
      message.writtenPassword constants store = message.writtenPassword constants other ∧
      message.writtenAccess constants store = message.writtenAccess constants other := by
  simp only [writtenName, writtenPassword, writtenAccess, names_congr same, and_self]

/-- A loop over bodies that look at nothing ends the same in every state. -/
theorem forLoop_outcome_congr {σ ε β : Type} {body : ℕ → Process σ ε (Option β)}
    {first second : σ} (looks : ∀ index state, ((body index).run state).2 = state)
    (blind : ∀ index, ((body index).run first).1 = ((body index).run second).1) (count : ℕ) :
    ((Process.forLoop body count).run first).1 = ((Process.forLoop body count).run second).1 := by
  have kept : ∀ state count, ((Process.forLoop body count).run state).2 = state := fun state count =>
    (Process.run_forLoop_unchanged fun index _ => looks index state).1
  induction count with
  | zero => rfl
  | succ count ih =>
    rw [Process.run_forLoop_succ, Process.run_forLoop_succ]
    have keptFirst := kept first count
    have keptSecond := kept second count
    rcases ranFirst : (Process.forLoop body count).run first with ⟨outcome, reached⟩
    rcases ranSecond : (Process.forLoop body count).run second with ⟨outcome', reached'⟩
    rw [ranFirst] at ih keptFirst
    rw [ranSecond] at ih keptSecond
    cases ih
    cases keptFirst
    cases keptSecond
    cases outcome with
    | returned value =>
      cases value with
      | none => exact blind count
      | some result => rfl
    | thrown error => rfl
    | exited status => rfl

theorem checkUsers_outcome_congr {calls : UserCalls}
    (same : (store constants.ipmiDefaultUserId).enabled =
      (other constants.ipmiDefaultUserId).enabled) :
    ((checkUsers constants calls).run store).1 = ((checkUsers constants calls).run other).1 := by
  unfold checkUsers ipmiUserCheckEnabled
  by_cases counted : calls.getAllCounts = ccSuccess
  · by_cases several : 1 < calls.enabledUsers
    · simp [counted, several]
    · simp only [counted, several, if_true, if_false, Process.run_gets_bind, same]
      split <;> rfl
  · simp [counted]

/-- Of the store, an answer depends on whether the default user is enabled, and on nothing else. -/
theorem ActivationMessage.answer_congr
    (same : (store constants.ipmiDefaultUserId).enabled =
      (other constants.ipmiDefaultUserId).enabled) :
    message.answer constants store = message.answer constants other := by
  have channels := @forLoop_outcome_congr _ _ _
    (fun channel => liftNetwork (checkChannel constants message.network (UInt8.ofNat channel)))
    store other (fun index state => (run_liftNetwork _ state).1)
    (fun index => by cases checkChannel constants message.network (UInt8.ofNat index) <;> rfl)
    constants.maxIpmiChannels.toNat
  obtain ⟨outcome, ranChannels, _⟩ := run_checkChannels constants message.network store
  obtain ⟨outcome', ranChannels', _⟩ := run_checkChannels constants message.network other
  rw [ranChannels, ranChannels'] at channels
  cases channels
  unfold answer ipmiOEMSetUser2Activation
  rw [Process.run_bind, Process.run_bind, ranChannels, ranChannels']
  cases outcome with
  | thrown error => rfl
  | exited status => rfl
  | returned refusal =>
    cases refusal with
    | some rc => rfl
    | none =>
      have users := @checkUsers_outcome_congr constants store other message.calls same
      obtain ⟨refusal, ranUsers, _⟩ := run_checkUsers constants message.calls store
      obtain ⟨refusal', ranUsers', _⟩ := run_checkUsers constants message.calls other
      rw [ranUsers, ranUsers'] at users
      cases users
      simp only
      rw [Process.run_bind_returned ranUsers, Process.run_bind_returned ranUsers']
      cases refusal with
      | some rc => rfl
      | none => simp only [run_createUser]

end Checks

/-!
## Runs
-/

section Runs

variable (constants : ChannelConstants) (store : UserStore) (messages : List ActivationMessage)

/-- The default user after a run, by what each request writes when it comes alone. -/
def accountAfter : UserRecord :=
  let user := store constants.ipmiDefaultUserId
  { name := lastWritten (fun message => message.writtenName constants store) user.name messages
    password :=
      lastWritten (fun message => message.writtenPassword constants store) user.password messages
    enabled := user.enabled
    privilege :=
      if ∃ message ∈ messages, message.answer constants store = .returned ccSuccess then
        Function.update user.privilege constants.chanLan1 (adminAccess constants)
      else user.privilege }

/-- What no request of a run changes. -/
structure SameUsers (before after : UserStore) : Prop where
  enabled : (after constants.ipmiDefaultUserId).enabled =
    (before constants.ipmiDefaultUserId).enabled
  others : ∀ userId, userId ≠ constants.ipmiDefaultUserId → after userId = before userId

variable {constants store messages}

theorem SameUsers.after {reached : UserStore} (message : ActivationMessage)
    (same : SameUsers constants store reached) :
    SameUsers constants store (message.after constants reached) := by
  rw [ActivationMessage.after_eq]
  constructor
  · rw [Function.update_self]
    exact same.enabled
  · intro userId other
    rw [Function.update_of_ne other]
    exact same.others userId other

theorem sameUsers_storeAfter : SameUsers constants store (storeAfter constants store messages) :=
  List.foldlRecOn messages _ ⟨rfl, fun _ _ => rfl⟩ fun _ same message _ => same.after message

/-- A part of the default user is a register that a run writes. -/
theorem part_storeAfter {α : Type} {part : UserRecord → α} {writes : ActivationMessage → Option α}
    (moves : ∀ message reached, SameUsers constants store reached →
      part (message.written constants reached (reached constants.ipmiDefaultUserId)) =
        (writes message).getD (part (reached constants.ipmiDefaultUserId))) :
    part (storeAfter constants store messages constants.ipmiDefaultUserId) =
      lastWritten writes (part (store constants.ipmiDefaultUserId)) messages := by
  apply @register_foldl _ _ _ writes _ (SameUsers constants store)
    fun reached => part (reached constants.ipmiDefaultUserId)
  · intro reached message same
    exact same.after message
  · intro reached message same
    rw [ActivationMessage.after_eq, Function.update_self]
    exact moves message reached same
  · exact ⟨rfl, fun _ _ => rfl⟩

theorem privilege_storeAfter (channel : UInt8) :
    (storeAfter constants store messages constants.ipmiDefaultUserId).privilege channel =
      lastWritten
        (fun message => if channel = constants.chanLan1 then message.writtenAccess constants store
          else none)
        ((store constants.ipmiDefaultUserId).privilege channel) messages := by
  apply @part_storeAfter constants store messages _ fun user => user.privilege channel
  intro message reached same
  rw [(ActivationMessage.written_congr same.enabled).2.2.symm]
  by_cases first : channel = constants.chanLan1
  · subst first
    simp [ActivationMessage.written]
  · simp [ActivationMessage.written, first]

theorem writtenAccess_eq {message : ActivationMessage} {access : PrivAccess}
    (wrote : message.writtenAccess constants store = some access) :
    access = adminAccess constants := by
  unfold ActivationMessage.writtenAccess at wrote
  split at wrote
  · exact (Option.some.inj wrote).symm
  · cases wrote

theorem privilege_storeAfter_eq :
    (storeAfter constants store messages constants.ipmiDefaultUserId).privilege =
      (accountAfter constants store messages).privilege := by
  funext channel
  rw [privilege_storeAfter]
  unfold accountAfter
  by_cases granted : ∃ message ∈ messages, message.answer constants store = .returned ccSuccess
  · simp only [granted, if_true]
    by_cases first : channel = constants.chanLan1
    · subst first
      simp only [if_true, Function.update_self]
      apply lastWritten_of_one fun _ _ wrote => writtenAccess_eq wrote
      obtain ⟨message, member, success⟩ := granted
      exact ⟨message, member, ActivationMessage.answer_eq_success_iff.mp success⟩
    · rw [Function.update_of_ne first]
      exact lastWritten_of_unwritten fun _ _ => if_neg first
  · simp only [granted, if_false]
    apply lastWritten_of_unwritten
    intro message member
    split
    · by_contra wrote
      exact granted ⟨message, member, ActivationMessage.answer_eq_success_iff.mpr wrote⟩
    · rfl

theorem storeAfter_eq :
    storeAfter constants store messages = Function.update store constants.ipmiDefaultUserId
      (accountAfter constants store messages) := by
  have same : SameUsers constants store (storeAfter constants store messages) := sameUsers_storeAfter
  funext userId
  by_cases isDefault : userId = constants.ipmiDefaultUserId
  · subst isDefault
    have name := @part_storeAfter constants store messages _ UserRecord.name
      (fun message => message.writtenName constants store) fun message reached same => by
        rw [← (ActivationMessage.written_congr same.enabled).1]
        rfl
    have password := @part_storeAfter constants store messages _ UserRecord.password
      (fun message => message.writtenPassword constants store) fun message reached same => by
        rw [← (ActivationMessage.written_congr same.enabled).2.1]
        rfl
    have privilege := @privilege_storeAfter_eq constants store messages
    have enabled := same.enabled
    rw [Function.update_self]
    generalize storeAfter constants store messages constants.ipmiDefaultUserId = reached at *
    obtain ⟨_, _, _, _⟩ := reached
    cases name
    cases password
    cases enabled
    cases privilege
    rfl
  · rw [Function.update_of_ne isDefault, same.others userId isDefault]

end Runs

/-- Of a run, each request gets the answer it would get alone; no user but the
default one is touched, and that one keeps its enabled flag, has the name and the
password that were written last, and has gained access exactly if some request was
answered with success. -/
theorem activations_as_if_alone (constants : ChannelConstants) (store : UserStore)
    (messages : List ActivationMessage) :
    activationAnswers constants store messages =
        messages.map (ActivationMessage.answer constants store) ∧
      storeAfter constants store messages = Function.update store constants.ipmiDefaultUserId
        (accountAfter constants store messages) := by
  refine ⟨?_, storeAfter_eq⟩
  suffices answers : ∀ reached, SameUsers constants store reached →
      activationAnswers constants reached messages =
        messages.map (ActivationMessage.answer constants store) from
    answers store ⟨rfl, fun _ _ => rfl⟩
  induction messages with
  | nil => exact fun _ _ => rfl
  | cons message rest ih =>
    intro reached same
    rw [activationAnswers, List.map_cons, ih _ (same.after message),
      ActivationMessage.answer_congr same.enabled]

end InspurIpmi
