import OpenSomeIp.ClientLedger
import OpenSomeIp.PublishThreshold
import OpenSomeIp.ServerLedger
import OpenSomeIp.SimpleE2eProfile

set_option autoImplicit false

namespace OpenSomeIp

open Transition

namespace E2ECounter

variable {ω ε κ ς η τ : Type}

/-- The settings with E2E on. -/
def guarded (settings : ServerSettings) (config : E2EConfig) (profile : E2EProfile) :
    ServerSettings :=
  { settings with e2eConfig := some config, e2eProfile := some profile }

/-- A server just made, with nothing handed on. -/
def newServer (settings : ServerSettings) (native : ω) (app : App η) :
    Ledger (ServerWorld (ω × List Bytes) η) where
  world := SomeIpServer.create settings (native, []) app

def serverStep (settings : ServerSettings) (ext : Option (ServerExtension ω ε κ ς)) (fuel : Nat) :
    Ledger (ServerWorld (ω × List Bytes) η) → ServerAct η →
      Option (Ledger (ServerWorld (ω × List Bytes) η)) :=
  Ledger.step (ServerAct.perform settings (ext.map ServerExtension.recorded) fuel)
    (ServerAct.handedOn settings ext fuel)

def newClient (config : E2EConfig) (profile : E2EProfile) (native : τ) :
    Ledger (SomeIpClient (τ × List Bytes)) where
  world := SomeIpClient.init { e2eConfig := some config, e2eProfile := some profile } (native, [])

def clientStep (rpc : RpcClient τ) :
    Ledger (SomeIpClient (τ × List Bytes)) → ClientAct (τ × List Bytes) →
      Option (Ledger (SomeIpClient (τ × List Bytes))) :=
  Ledger.step (ClientAct.perform rpc.recorded) (ClientAct.handedOn rpc)

/-- The counters of what a server or a client hands on have no gap exactly as long as nothing
fails between a stamp and the native call. -/
theorem no_gap_iff (profile : E2EProfile)
    (total : ∀ payload counter, ∃ stamped, profile.protect payload counter = .ok stamped)
    (config : E2EConfig) (settings : ServerSettings) (ext : Option (ServerExtension ω ε κ ς))
    (fuel : Nat) (native : ω) (app : App η) (acts : List (ServerAct η)) (rpc : RpcClient τ)
    (nativeRpc : τ) (calls : List (ClientAct (τ × List Bytes))) :
    (Along (serverStep (guarded settings config profile) ext fuel)
        (fun ledger a => a.HandsOn (guarded settings config profile) ext ledger.world)
        (newServer (guarded settings config profile) native app) acts ↔
      ∀ front, front <+: acts → ∀ ledger,
        run (serverStep (guarded settings config profile) ext fuel)
            (newServer (guarded settings config profile) native app) front = some ledger →
          ledger.InSequence (fun w => w.core.e2e) config profile) ∧
    (Along (clientStep rpc) (fun ledger a => a.HandsOn rpc ledger.world)
        (newClient config profile nativeRpc) calls ↔
      ∀ front, front <+: calls → ∀ ledger,
        run (clientStep rpc) (newClient config profile nativeRpc) front = some ledger →
          ledger.InSequence SomeIpClient.e2e config profile) := by
  constructor
  · apply Ledger.inSequence_iff
    · exact ServerAct.accounted (guarded settings config profile) ext fuel total config
    · rfl
  · apply Ledger.inSequence_iff
    · exact ClientAct.accounted rpc total config
    · rfl

theorem simpleE2EProfile_total (payload : Bytes) (counter : Nat) :
    ∃ stamped, simpleE2EProfile.protect payload counter = .ok stamped := by
  obtain ⟨stamped, success, -⟩ := simpleE2EProfile_lawful payload counter
  exact ⟨stamped, success⟩

def config : E2EConfig := { profileId := .profile01, dataId := 0x1234, dataLength := 5 }

/-- A server with the profile of the example in the repository and without TP. -/
def settings : ServerSettings :=
  guarded { SomeIpServer.tpServer with enableTp := false } config simpleE2EProfile

def silent : App Unit where
  state := ()
  objects _ := {}

/-- A native RPC client whose calls succeed with nothing. -/
def willing : RpcClient Unit where
  cpp := some
    { int := fun result => if result = .success then 0 else 1
      initializeClient := pure ()
      shutdown := pure ()
      callMethodSync := fun _ _ _ => pure { result := .success }
      callMethodAsync := fun _ _ _ => pure () }

def publishActs : List (ServerAct Unit) :=
  [.start, .registerEvent 0x8001 1, .publishEvent 0x8001 [1], .setField 0x8002 [2]]

def callActs : List (ClientAct (Unit × List Bytes)) :=
  [.beneath fun w => { w with running := true }, .call ⟨0x1234, 1⟩ [1], .call ⟨0x1234, 1⟩ [2]]

/-- Where the native layers accept all: an event and a field, and two calls. -/
theorem no_gap_iff_publish :
    (∃ ledger,
      run (serverStep settings (some SomeIpServer.recordingServer) 1) (newServer settings [] silent)
        publishActs = some ledger ∧
      ledger.handed.length = 2 ∧ ledger.InSequence (fun w => w.core.e2e) config simpleE2EProfile) ∧
    (∃ ledger,
      run (clientStep willing) (newClient config simpleE2EProfile ()) callActs = some ledger ∧
      ledger.handed.length = 2 ∧ ledger.InSequence SomeIpClient.e2e config simpleE2EProfile) := by
  have exact_ := no_gap_iff simpleE2EProfile simpleE2EProfile_total config settings
    (some SomeIpServer.recordingServer) 1 [] silent publishActs willing () callActs
  constructor
  · refine ⟨_, rfl, rfl, exact_.1.mp ⟨trivial, ?_⟩ publishActs (List.prefix_refl _) _ rfl⟩
    rintro _ ⟨⟩
    refine ⟨trivial, ?_⟩
    rintro _ ⟨⟩
    refine ⟨⟨_, rfl, ⟨by decide, nofun, by decide +kernel, _, rfl, rfl⟩⟩, ?_⟩
    rintro _ ⟨⟩
    exact ⟨⟨_, rfl, _, rfl, rfl⟩, fun _ _ => trivial⟩
  · refine ⟨_, rfl, rfl, exact_.2.mp ⟨trivial, ?_⟩ callActs (List.prefix_refl _) _ rfl⟩
    rintro _ ⟨⟩
    refine ⟨⟨_, rfl, rfl, _, _, rfl, rfl⟩, ?_⟩
    rintro _ ⟨⟩
    exact ⟨⟨_, rfl, rfl, _, _, rfl, rfl⟩, fun _ _ => trivial⟩

/-- The event 0x8001 is registered, the event 0x8002 is not. -/
def gapActs : List (ServerAct Unit) :=
  [.start, .registerEvent 0x8001 1, .publishEvent 0x8002 [1], .publishEvent 0x8001 [2]]

/-- After an event that was refused, the first payload that is handed on has the counter 1. -/
theorem refused_event_leaves_gap :
    ∃ ledger,
      run (serverStep settings (some SomeIpServer.recordingServer) 1) (newServer settings [] silent)
        gapActs = some ledger ∧
      ledger.handed = [([2], [211, 106, 1, 0, 2])] ∧
      simpleE2EProfile.protect [2] 1 = .ok [211, 106, 1, 0, 2] ∧
      simpleE2EProfile.protect [2] 0 = .ok [211, 106, 0, 0, 2] ∧
      ¬ ledger.InSequence (fun w => w.core.e2e) config simpleE2EProfile := by
  refine ⟨_, rfl, rfl, rfl, rfl, ?_⟩
  intro sequence
  have first := sequence.stamps 0 [2] [211, 106, 1, 0, 2] rfl
  cases first

end E2ECounter

end OpenSomeIp
