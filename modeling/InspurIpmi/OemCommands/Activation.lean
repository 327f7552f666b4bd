import Mathlib.Logic.Function.Basic
import InspurIpmi.OemCommands

/-!
# Failed activations

An activation that fails is to leave the user store as it was. The checks in
front of the setters never touch the store; behind them, the one call that is to
undo the setters clears the name, whatever the name was, and nothing else.
-/

set_option autoImplicit false

namespace InspurIpmi

open Foundation

/-!
## What the checks let through
-/

/-- The channel is no system interface, and no LAN channel with DHCP. -/
def ChannelAdmitted (constants : ChannelConstants) (network : NetworkLayer) (channel : UInt8) :
    Prop :=
  ∃ mediumType, network.getChannelInfo channel = .ok mediumType ∧
    mediumType ≠ constants.systemInterface ∧
    (mediumType = constants.lan8032 →
      isDHCPIPv6Enabled network channel = .ok false ∧ isDHCPEnabled network channel = .ok false)

/-- No user but one is enabled, and the default user is not known to be. -/
def UsersAdmitted (constants : ChannelConstants) (calls : UserCalls) (store : UserStore) : Prop :=
  calls.getAllCounts = ccSuccess ∧ calls.enabledUsers ≤ 1 ∧
    (calls.checkEnabled = ccSuccess → (store constants.ipmiDefaultUserId).enabled = false)

structure Admitted (constants : ChannelConstants) (network : NetworkLayer) (calls : UserCalls)
    (store : UserStore) : Prop where
  channels : ∀ channel < constants.maxIpmiChannels, ChannelAdmitted constants network channel
  users : UsersAdmitted constants calls store

section Checks

variable {constants : ChannelConstants} {network : NetworkLayer} {calls : UserCalls}
  {store : UserStore}

theorem checkChannel_eq_none_iff {channel : UInt8} :
    checkChannel constants network channel = .ok none ↔ ChannelAdmitted constants network channel := by
  unfold checkChannel ChannelAdmitted
  cases network.getChannelInfo channel with
  | error error => cases error <;> simp
  | ok mediumType =>
    by_cases system : mediumType = constants.systemInterface
    · simp [system]
    · by_cases lan : mediumType = constants.lan8032
      · subst lan
        cases isDHCPIPv6Enabled network channel with
        | error error => simp [system, bind, Except.bind]
        | ok ipv6 =>
          cases ipv6 with
          | true => simp [system, bind, Except.bind, pure, Except.pure]
          | false =>
            cases isDHCPEnabled network channel with
            | error error => simp [system, bind, Except.bind]
            | ok ipv4 => cases ipv4 <;> simp [system, bind, Except.bind, pure, Except.pure]
      · simp [system, lan]

/-- Both outcomes of a look at the network leave the store alone. -/
theorem run_liftNetwork (answer : Except OemException (Option CompletionCode)) (store : UserStore) :
    ((liftNetwork answer).run store).2 = store ∧
      (((liftNetwork answer).run store).1 = .returned none ↔ answer = .ok none) := by
  cases answer with
  | error error => exact ⟨rfl, by simp [liftNetwork]⟩
  | ok refusal => exact ⟨rfl, by simp [liftNetwork]⟩

theorem forall_index_iff_channel {count : UInt8} {property : UInt8 → Prop} :
    (∀ index < count.toNat, property (UInt8.ofNat index)) ↔ ∀ channel < count, property channel := by
  constructor
  · intro all channel below
    have found := all channel.toNat (UInt8.lt_iff_toNat_lt.mp below)
    rwa [UInt8.ofNat_toNat] at found
  · intro all index below
    apply all
    rw [UInt8.lt_iff_toNat_lt, UInt8.toNat_ofNat_of_lt' (below.trans count.toNat_lt)]
    exact below

/-- The checks of the channels leave the store alone, and an activation gets past
them when every channel is admitted. -/
theorem run_checkChannels (constants : ChannelConstants) (network : NetworkLayer)
    (store : UserStore) :
    ∃ outcome, (Process.forLoop
        (fun channel => liftNetwork (checkChannel constants network (UInt8.ofNat channel)))
        constants.maxIpmiChannels.toNat).run store = (outcome, store) ∧
      (outcome = .returned none ↔
        ∀ channel < constants.maxIpmiChannels, ChannelAdmitted constants network channel) := by
  obtain ⟨kept, exact⟩ := Process.run_forLoop_unchanged fun index
    (_ : index < constants.maxIpmiChannels.toNat) =>
      (run_liftNetwork (checkChannel constants network (UInt8.ofNat index)) store).1
  refine ⟨_, Prod.ext rfl kept, exact.trans ?_⟩
  rw [← forall_index_iff_channel]
  apply forall₂_congr
  intro index _
  exact (run_liftNetwork _ store).2.trans checkChannel_eq_none_iff

theorem run_checkUsers (constants : ChannelConstants) (calls : UserCalls) (store : UserStore) :
    ∃ refusal, (checkUsers constants calls).run store = (.returned refusal, store) ∧
      (refusal = none ↔ UsersAdmitted constants calls store) := by
  unfold checkUsers UsersAdmitted ipmiUserCheckEnabled
  by_cases counted : calls.getAllCounts = ccSuccess
  · by_cases several : 1 < calls.enabledUsers
    · exact ⟨some ccCommandNotAvailable, by simp [counted, several], by simp [several]⟩
    · have few : calls.enabledUsers ≤ 1 := UInt8.not_lt.mp several
      by_cases enabled : calls.checkEnabled = ccSuccess ∧
          (store constants.ipmiDefaultUserId).enabled = true
      · exact ⟨some ccCommandNotAvailable, by simp [counted, several, enabled], by simp [enabled]⟩
      · exact ⟨none, by simp [counted, several, enabled], by simpa [counted, few] using enabled⟩
  · exact ⟨some ccUnspecifiedError, by simp [counted], by simp [counted]⟩

theorem run_activation_refused (userName userPassword : List UInt8)
    (refused : ¬ Admitted constants network calls store) :
    ∃ outcome, (ipmiOEMSetUser2Activation constants network calls userName userPassword).run store =
      (outcome, store) := by
  unfold ipmiOEMSetUser2Activation
  obtain ⟨outcome, ranChannels, channels⟩ := run_checkChannels constants network store
  cases outcome with
  | thrown error => exact ⟨_, by rw [Process.run_bind, ranChannels]⟩
  | exited status => exact ⟨_, by rw [Process.run_bind, ranChannels]⟩
  | returned refusal =>
    rw [Process.run_bind_returned ranChannels]
    cases refusal with
    | some rc => exact ⟨.returned rc, rfl⟩
    | none =>
      obtain ⟨refusal, ranUsers, users⟩ := run_checkUsers constants calls store
      rw [Process.run_bind_returned ranUsers]
      cases refusal with
      | some rc => exact ⟨.returned rc, rfl⟩
      | none => exact absurd ⟨channels.mp rfl, users.mp rfl⟩ refused

theorem run_activation_admitted (userName userPassword : List UInt8)
    (admitted : Admitted constants network calls store) :
    (ipmiOEMSetUser2Activation constants network calls userName userPassword).run store =
      (createUser constants calls userName userPassword).run store := by
  unfold ipmiOEMSetUser2Activation
  obtain ⟨outcome, ranChannels, channels⟩ := run_checkChannels constants network store
  obtain ⟨refusal, ranUsers, users⟩ := run_checkUsers constants calls store
  cases channels.mpr admitted.channels
  cases users.mpr admitted.users
  rw [Process.run_bind_returned ranChannels, Process.run_bind_returned ranUsers]

end Checks

/-!
## What the setters leave behind
-/

/-- A failed activation, once it has named the user, leaves the name that the
clearing call leaves, and the password if it was set. -/
def leftBehind (calls : UserCalls) (userName userPassword : List UInt8) (user : UserRecord) :
    UserRecord :=
  { user with
    name := if calls.clearUserName = ccSuccess then [] else cString userName
    password := if calls.setUserPassword = ccSuccess then cString userPassword else user.password }

section Setters

variable {constants : ChannelConstants} {calls : UserCalls} {userName userPassword : List UInt8}
  {store : UserStore}

@[simp] theorem run_setUser_bind {α : Type} (code : CompletionCode) (userId : UInt8)
    (update : UserRecord → UserRecord) (next : CompletionCode → UserLayer α) (store : UserStore) :
    (setUser code userId update >>= next).run store =
      (next code).run (if code = ccSuccess then Function.update store userId (update (store userId))
        else store) := by
  unfold setUser
  by_cases success : code = ccSuccess
  · rw [if_pos success, if_pos success]
    rfl
  · rw [if_neg success, if_neg success]
    rfl

theorem run_createUser_unnamed (unnamed : calls.setUserName ≠ ccSuccess) :
    (createUser constants calls userName userPassword).run store =
      (.returned ccCommandNotAvailable, store) := by
  simp [createUser, ipmiUserSetUserName, unnamed]

theorem run_createUser_created (named : calls.setUserName = ccSuccess)
    (password : calls.setUserPassword = ccSuccess)
    (privilege : calls.setPrivilegeAccess = ccSuccess) :
    ((createUser constants calls userName userPassword).run store).1 = .returned ccSuccess := by
  simp [createUser, ipmiUserSetUserName, ipmiUserSetUserPassword, ipmiUserSetPrivilegeAccess,
    named, password, privilege]

theorem run_createUser_undone (named : calls.setUserName = ccSuccess)
    (failed : ¬ (calls.setUserPassword = ccSuccess ∧ calls.setPrivilegeAccess = ccSuccess)) :
    (createUser constants calls userName userPassword).run store =
      (.returned ccCommandNotAvailable, Function.update store constants.ipmiDefaultUserId
        (leftBehind calls userName userPassword (store constants.ipmiDefaultUserId))) := by
  unfold createUser ipmiUserSetUserName ipmiUserSetUserPassword ipmiUserSetPrivilegeAccess leftBehind
  by_cases password : calls.setUserPassword = ccSuccess
  · have unprivileged : calls.setPrivilegeAccess ≠ ccSuccess := fun success =>
      failed ⟨password, success⟩
    by_cases cleared : calls.clearUserName = ccSuccess <;>
      simp [named, password, unprivileged, cleared, cString]
  · by_cases cleared : calls.clearUserName = ccSuccess <;>
      simp [named, password, cleared, cString]

end Setters

/-!
## The exact condition
-/

/-- Whatever the activation answers other than success, and however it ends, the
store is what it was. -/
def FailedActivationUndone (constants : ChannelConstants) (network : NetworkLayer)
    (calls : UserCalls) (userName userPassword : List UInt8) (store : UserStore) : Prop :=
  ∀ outcome after,
    (ipmiOEMSetUser2Activation constants network calls userName userPassword).run store =
      (outcome, after) → outcome ≠ .returned ccSuccess → after = store

/-- Where an activation names the user and then fails, the name and the password
must have been before what the failure leaves. -/
def LeavesNoTrace (constants : ChannelConstants) (network : NetworkLayer) (calls : UserCalls)
    (userName userPassword : List UInt8) (store : UserStore) : Prop :=
  Admitted constants network calls store → calls.setUserName = ccSuccess →
    ¬ (calls.setUserPassword = ccSuccess ∧ calls.setPrivilegeAccess = ccSuccess) →
    (store constants.ipmiDefaultUserId).name =
        (if calls.clearUserName = ccSuccess then [] else cString userName) ∧
      (calls.setUserPassword = ccSuccess →
        (store constants.ipmiDefaultUserId).password = cString userPassword)

theorem leftBehind_eq_self_iff {calls : UserCalls} {userName userPassword : List UInt8}
    {user : UserRecord} :
    leftBehind calls userName userPassword user = user ↔
      user.name = (if calls.clearUserName = ccSuccess then [] else cString userName) ∧
        (calls.setUserPassword = ccSuccess → user.password = cString userPassword) := by
  obtain ⟨name, password, enabled, privilege⟩ := user
  by_cases set : calls.setUserPassword = ccSuccess <;> simp [leftBehind, set, eq_comm]

/-- What an activation that fails can do to the store. -/
theorem run_activation_failed {constants : ChannelConstants} {network : NetworkLayer}
    {calls : UserCalls} {userName userPassword : List UInt8} {store after : UserStore}
    {outcome : Outcome OemException CompletionCode}
    (ran : (ipmiOEMSetUser2Activation constants network calls userName userPassword).run store =
      (outcome, after)) (unsuccessful : outcome ≠ .returned ccSuccess) :
    after = store ∨ Admitted constants network calls store ∧ calls.setUserName = ccSuccess ∧
      ¬ (calls.setUserPassword = ccSuccess ∧ calls.setPrivilegeAccess = ccSuccess) ∧
      after = Function.update store constants.ipmiDefaultUserId
        (leftBehind calls userName userPassword (store constants.ipmiDefaultUserId)) := by
  by_cases admitted : Admitted constants network calls store
  · rw [run_activation_admitted userName userPassword admitted] at ran
    by_cases named : calls.setUserName = ccSuccess
    · by_cases set : calls.setUserPassword = ccSuccess ∧ calls.setPrivilegeAccess = ccSuccess
      · have success : ((createUser constants calls userName userPassword).run store).1 =
            .returned ccSuccess := run_createUser_created named set.1 set.2
        rw [ran] at success
        exact absurd success unsuccessful
      · rw [run_createUser_undone named set] at ran
        cases ran
        exact .inr ⟨admitted, named, set, rfl⟩
    · rw [run_createUser_unnamed named] at ran
      cases ran
      exact .inl rfl
  · obtain ⟨_, ranRefused⟩ := run_activation_refused userName userPassword admitted
    rw [ranRefused] at ran
    cases ran
    exact .inl rfl

/-- A failed activation leaves no trace exactly when what it leaves was there. -/
theorem failedActivationUndone_iff (constants : ChannelConstants) (network : NetworkLayer)
    (calls : UserCalls) (userName userPassword : List UInt8) (store : UserStore) :
    FailedActivationUndone constants network calls userName userPassword store ↔
      LeavesNoTrace constants network calls userName userPassword store := by
  constructor
  · intro undone admitted named failed
    have ran := (run_activation_admitted userName userPassword admitted).trans
      (run_createUser_undone named failed)
    have same := undone _ _ ran (by simp)
    exact leftBehind_eq_self_iff.mp (Function.update_eq_self_iff.mp same)
  · intro untraced outcome after ran unsuccessful
    obtain same | ⟨admitted, named, failed, left⟩ := run_activation_failed ran unsuccessful
    · exact same
    · have same := leftBehind_eq_self_iff.mpr (untraced admitted named failed)
      exact left.trans (Function.update_eq_self_iff.mpr same)

def ChannelConstants.ipmi : ChannelConstants where
  maxIpmiChannels := 16
  systemInterface := 0x0C
  lan8032 := 0x04
  chanLan1 := 1
  ipmiDefaultUserId := 2
  privilegeAdmin := 4

/-- Every channel is a LAN channel whose addresses are set by hand. -/
def NetworkLayer.static : NetworkLayer where
  getChannelInfo := fun _ => .ok 0x04
  getChannelName := fun _ => .ok "eth0".toList
  getDbusObject := fun path => .ok (path, [])
  getDbusProperty := fun _ _ =>
    .ok (.string (bytesOf "xyz.openbmc_project.Network.IP.AddressOrigin.Static"))
  getAllDbusProperties := fun _ _ =>
    .ok fun _ => .string (bytesOf "xyz.openbmc_project.Network.IP.AddressOrigin.Static")

/-- Only the privilege cannot be set. -/
def UserCalls.unprivileged : UserCalls :=
  ⟨ccSuccess, 1, ccSuccess, ccSuccess, ccSuccess, ccUnspecifiedError, ccSuccess⟩

def UserStore.blank : UserStore := fun _ => ⟨[], [], false, fun _ => ⟨0, false, false, false, 0⟩⟩

theorem admitted_static_blank : Admitted .ipmi .static .unprivileged .blank := by
  refine ⟨fun channel _ => ⟨0x04, rfl, by decide, fun _ => ⟨?_, ?_⟩⟩, rfl, by decide, fun _ => rfl⟩
  · rfl
  · rfl

/-- Where the privilege cannot be set, the new password stays with the user. -/
theorem activation_leaves_password :
    ¬ FailedActivationUndone .ipmi .static .unprivileged (bytesOf "admin") (bytesOf "secret")
      .blank := by
  intro undone
  have ran := (run_activation_admitted (bytesOf "admin") (bytesOf "secret")
    admitted_static_blank).trans (run_createUser_undone rfl (by decide))
  have same := congrFun (undone _ _ ran (by simp)) 2
  exact absurd (congrArg UserRecord.password same) (by decide)

end InspurIpmi
