import ContainRes.Common.Exceptions
import ContainRes.Effects.Proc
import ContainRes.Store.Table
import ContainRes.Systems.Guarded
import Mathlib.Data.List.Dedup

/-! # The update of the protocol of the load balancer

`QuicUpdateHelper` changes the protocol of the connection gateways between TCP and QUIC: it deletes the listener and
the target group of the load balancer, creates both again with the other protocol, and changes the egress rule and
the flag in the settings. When a call fails it rolls back to the mode that was not asked for.

* **`QuicState`** — the listeners, the target groups, the egress rule and the flag.
* **`CallFaults`** — which of the calls of an update fail; each of them is made once at most.
* **`updateQuicConfig`** — the update with its rollback.
* **`UpdateMeets`** — an update returns; after a success everything is of the requested mode, and after a complete
  rollback everything is as before.
* **`quicUpdates_iff`** — the runs in which every update does so. -/

namespace ContainRes.QuicUpdate

open Effects Store Systems

/-! ## The load balancer and the settings -/

/-- `'TCP'` and `'TCP_UDP'`. -/
inductive Protocol
  | TCP
  | TCP_UDP
  deriving DecidableEq, Repr

/-- The configuration that is asked for. -/
inductive Config
  | TCP
  | QUIC
  deriving DecidableEq, Repr

/-- `TCP_PROTOCOL` and `QUIC_PROTOCOL`. -/
def Config.protocol : Config → Protocol
  | .TCP => .TCP
  | .QUIC => .TCP_UDP

/-- The other configuration. -/
def Config.other : Config → Config
  | .TCP => .QUIC
  | .QUIC => .TCP

/-- The name of a target group, which is unique, and what tells it from an earlier one with the name. -/
structure TargetGroupArn where
  name : String
  id : ℕ
  deriving DecidableEq, Repr

/-- A target group, under its name. -/
structure TargetGroup where
  id : ℕ
  protocol : Protocol
  vpcId : String
  targets : List String
  deriving DecidableEq, Repr

/-- A listener of the load balancer. -/
structure Listener where
  id : ℕ
  protocol : Protocol
  port : ℕ
  targetGroup : TargetGroupArn
  deriving DecidableEq, Repr

/-- What an update changes. -/
structure QuicState where
  /-- The listeners of the load balancer. -/
  listeners : List Listener
  /-- The target groups of the account. -/
  targetGroups : Table String TargetGroup
  nextId : ℕ
  /-- The security group of the gateway has the rule for UDP at port 8443. -/
  egressRule : Bool
  /-- `dcv_session.quic_support` in the table. -/
  quicSupport : Bool
  /-- The same in the local configuration. -/
  localQuicSupport : Bool

/-- The settings that an update needs, and the gateway instance that is running. -/
structure GatewayEnv where
  externalNlbArn : Option String
  gatewaySecurityGroupId : Option String
  gatewayInstanceId : String

inductive UpdateQuicResults
  | SUCCESS
  | ROLLBACK_COMPLETE
  | ERROR
  deriving DecidableEq, Repr

/-- Which calls of `create_target_group` fail. -/
structure CreateFaults where
  createTargetGroup : Bool
  describeInstances : Bool
  registerTargets : Bool
  deriving DecidableEq, Repr

/-- Which calls of the rollback fail. -/
structure RollbackFaults where
  deleteListener : Bool
  deleteTargetGroup : Bool
  create : CreateFaults
  createListener : Bool
  deriving DecidableEq, Repr

/-- Which calls of an update fail. -/
structure CallFaults where
  describeTargetGroups : Bool
  describeListeners : Bool
  deleteListener : Bool
  deleteTargetGroup : Bool
  create : CreateFaults
  createListener : Bool
  updateEgress : Bool
  setConfigEntry : Bool
  rollback : RollbackFaults
  deriving DecidableEq, Repr

/-! ## The calls -/

/-- The exception of a call that fails. -/
def clientError (message : String) : Exc := .other .clientError message

variable {α : Type}

/-- A call that may fail; then it has no effect. -/
def calling (fails : Bool) (c : Proc QuicState Exc α) : Proc QuicState Exc α :=
  if fails then Proc.raise (clientError "InternalError") else c

/-- `try`: a value, or nothing when there is an exception. -/
def tried (c : Proc QuicState Exc α) : Proc QuicState Exc (Option α) :=
  Proc.tryCatch (c >>= fun a => pure (some a)) fun _ => pure none

/-- `values[0]`. -/
def first : List α → Proc QuicState Exc α
  | [] => Proc.raise (.other .indexError "list index out of range")
  | a :: _ => pure a

/-- `get_string(key, required=True)`; a missing key raises. -/
def getRequired (key : String) (value : Option String) : Proc QuicState Exc String :=
  match value with
  | none => Proc.raise (.other .keyError key)
  | some value => pure value

/-- The target group that an arn names. -/
def QuicState.find (s : QuicState) (arn : TargetGroupArn) : Option TargetGroup :=
  (s.targetGroups.getItem arn.name).filter fun tg => tg.id = arn.id

/-- The target groups that listeners of the load balancer forward to. -/
def QuicState.attached (s : QuicState) : List (TargetGroupArn × TargetGroup) :=
  (s.listeners.map (·.targetGroup)).dedup.filterMap fun arn => (s.find arn).map fun tg => (arn, tg)

def describeTargetGroups : Proc QuicState Exc (List (TargetGroupArn × TargetGroup)) := Proc.gets QuicState.attached

def describeListeners : Proc QuicState Exc (List Listener) := Proc.gets QuicState.listeners

def deleteListener (id : ℕ) : Proc QuicState Exc PUnit :=
  Proc.modify fun s => { s with listeners := s.listeners.filter fun l => l.id ≠ id }

/-- `delete_target_group(TargetGroupArn=...)`, which is refused while a listener forwards to it. -/
def deleteTargetGroup (arn : TargetGroupArn) : Proc QuicState Exc PUnit := do
  let s ← Proc.gets id
  if arn ∈ s.listeners.map (·.targetGroup) then Proc.raise (clientError "ResourceInUse")
  else match s.find arn with
    | none => pure ⟨⟩
    | some _ => Proc.modify fun s => { s with targetGroups := s.targetGroups.deleteItem arn.name }

/-- `elbv2().create_target_group(...)`: a target group that is there with the same settings is answered, and one with
other settings is refused. -/
def createGroup (name : String) (protocol : Protocol) (vpcId : String) : Proc QuicState Exc TargetGroupArn := do
  let s ← Proc.gets id
  match s.targetGroups.getItem name with
  | some tg =>
    if tg.protocol = protocol ∧ tg.vpcId = vpcId then pure ⟨name, tg.id⟩
    else Proc.raise (clientError "DuplicateTargetGroupName")
  | none => do
    Proc.modify fun s =>
      { s with
        targetGroups := s.targetGroups.putItem name ⟨s.nextId, protocol, vpcId, []⟩
        nextId := s.nextId + 1 }
    return ⟨name, s.nextId⟩

/-- A target is registered. -/
def TargetGroup.registered (instanceId : String) (tg : TargetGroup) : TargetGroup :=
  { tg with targets := instanceId :: tg.targets }

def registerTargets (arn : TargetGroupArn) (instanceId : String) : Proc QuicState Exc PUnit := do
  let s ← Proc.gets id
  match s.find arn with
  | none => Proc.raise (clientError "TargetGroupNotFound")
  | some tg => Proc.modify fun s =>
    { s with targetGroups := s.targetGroups.putItem arn.name (tg.registered instanceId) }

variable (env : GatewayEnv)

def createTargetGroup (f : CreateFaults) (name : String) (protocol : Protocol) (vpcId : String) :
    Proc QuicState Exc TargetGroupArn := do
  let targetGroupArn ← calling f.createTargetGroup (createGroup name protocol vpcId)
  let vdcGatewayInstanceId ← calling f.describeInstances (pure env.gatewayInstanceId)
  calling f.registerTargets (registerTargets targetGroupArn vdcGatewayInstanceId)
  return targetGroupArn

def listenerPort : ℕ := 443

/-- `create_listener(external_nlb_arn, protocol, target_group_arn)`; a port can have one listener. -/
def createListener (protocol : Protocol) (targetGroupArn : TargetGroupArn) : Proc QuicState Exc ℕ := do
  let s ← Proc.gets id
  if listenerPort ∈ s.listeners.map (·.port) then Proc.raise (clientError "DuplicateListener")
  else do
    Proc.modify fun s =>
      { s with
        listeners := s.listeners ++ [⟨s.nextId, protocol, listenerPort, targetGroupArn⟩]
        nextId := s.nextId + 1 }
    return s.nextId

/-- `update_egress(config)`: a rule that is there cannot be authorized again, but one that is not can be revoked. -/
def updateEgress (fails : Bool) (config : Config) : Proc QuicState Exc PUnit := do
  let _ ← getRequired "virtual-desktop-controller.gateway_security_group_id" env.gatewaySecurityGroupId
  calling fails do
    let s ← Proc.gets id
    match config with
    | .QUIC =>
      if s.egressRule then Proc.raise (clientError "InvalidPermission.Duplicate")
      else Proc.modify fun s => { s with egressRule := true }
    | .TCP => Proc.modify fun s => { s with egressRule := false }

/-- The value of the flag. -/
def Config.quicSupport : Config → Bool
  | .TCP => false
  | .QUIC => true

def updateQuicFlag (fails : Bool) (config : Config) : Proc QuicState Exc PUnit := do
  calling fails (Proc.modify fun s => { s with quicSupport := config.quicSupport })
  Proc.modify fun s => { s with localQuicSupport := config.quicSupport }

/-! ## The update -/

/-- The end of `execute_rollback_steps`: a target group and a listener are created from the old target group. -/
def recreate (f : RollbackFaults) (protocol : Protocol) (current : TargetGroupArn × TargetGroup) :
    Proc QuicState Exc UpdateQuicResults := do
  match ← tried (createTargetGroup env f.create current.1.name protocol current.2.vpcId) with
  | none => return .ERROR
  | some rollBackTargetGroupArn =>
    match ← tried (calling f.createListener (createListener protocol rollBackTargetGroupArn)) with
    | none => return .ERROR
    | some _ => return .ROLLBACK_COMPLETE

/-- The middle of it: the new target group is deleted if there is one. -/
def executeRollbackFromTargetGroup (f : RollbackFaults) (protocol : Protocol) (current : TargetGroupArn × TargetGroup)
    (newTargetGroupArn : Option TargetGroupArn) : Proc QuicState Exc UpdateQuicResults :=
  match newTargetGroupArn with
  | none => recreate env f protocol current
  | some arn => do
    match ← tried (calling f.deleteTargetGroup (deleteTargetGroup arn)) with
    | none => return .ERROR
    | some _ => recreate env f protocol current

/-- `execute_rollback_steps(protocol, config, current_target_group, external_nlb_arn, new_target_group_arn,
new_listener_arn)`. -/
def executeRollbackSteps (f : RollbackFaults) (protocol : Protocol) (current : TargetGroupArn × TargetGroup)
    (newTargetGroupArn : Option TargetGroupArn) (newListenerArn : Option ℕ) : Proc QuicState Exc UpdateQuicResults :=
  match newListenerArn with
  | none => executeRollbackFromTargetGroup env f protocol current newTargetGroupArn
  | some id => do
    match ← tried (calling f.deleteListener (deleteListener id)) with
    | none => return .ERROR
    | some _ => executeRollbackFromTargetGroup env f protocol current newTargetGroupArn

def rollback (f : RollbackFaults) (config : Config) (current : TargetGroupArn × TargetGroup)
    (newTargetGroupArn : Option TargetGroupArn) (newListenerArn : Option ℕ) : Proc QuicState Exc UpdateQuicResults :=
  executeRollbackSteps env f config.other.protocol current newTargetGroupArn newListenerArn

/-- The first `try` of `update_quic_config_steps`: the target group that is there, once its listener is deleted. -/
def deleteCurrentListener (f : CallFaults) : Proc QuicState Exc (TargetGroupArn × TargetGroup) := do
  let _ ← getRequired "virtual-desktop-controller.external_nlb_arn" env.externalNlbArn
  let targetGroups ← calling f.describeTargetGroups describeTargetGroups
  let currentTargetGroup ← first targetGroups
  let listeners ← calling f.describeListeners describeListeners
  let currentListener ← first listeners
  calling f.deleteListener (deleteListener currentListener.id)
  return currentTargetGroup

/-- The end of `update_quic_config_steps`: the egress rule and the flag. -/
def updateEgressAndFlag (f : CallFaults) (config : Config) (current : TargetGroupArn × TargetGroup)
    (newTargetGroupArn : TargetGroupArn) (newListenerArn : ℕ) : Proc QuicState Exc UpdateQuicResults := do
  match ← tried (updateEgress env f.updateEgress config) with
  | none => rollback env f.rollback config current (some newTargetGroupArn) (some newListenerArn)
  | some _ => do
    updateQuicFlag f.setConfigEntry config
    return .SUCCESS

/-- The listener that uses the new target group is created. -/
def createNewListener (f : CallFaults) (protocol : Protocol) (config : Config)
    (current : TargetGroupArn × TargetGroup) (newTargetGroupArn : TargetGroupArn) :
    Proc QuicState Exc UpdateQuicResults := do
  match ← tried (calling f.createListener (createListener protocol newTargetGroupArn)) with
  | none => rollback env f.rollback config current (some newTargetGroupArn) none
  | some newListenerArn => updateEgressAndFlag env f config current newTargetGroupArn newListenerArn

/-- The new target group is created. -/
def createNewTargetGroup (f : CallFaults) (protocol : Protocol) (config : Config)
    (current : TargetGroupArn × TargetGroup) : Proc QuicState Exc UpdateQuicResults := do
  match ← tried (createTargetGroup env f.create current.1.name protocol current.2.vpcId) with
  | none => rollback env f.rollback config current none none
  | some newTargetGroupArn => createNewListener env f protocol config current newTargetGroupArn

def updateQuicConfigSteps (f : CallFaults) (protocol : Protocol) (config : Config) :
    Proc QuicState Exc UpdateQuicResults := do
  match ← tried (deleteCurrentListener env f) with
  | none => return .ROLLBACK_COMPLETE
  | some current =>
    match ← tried (calling f.deleteTargetGroup (deleteTargetGroup current.1)) with
    | none => rollback env f.rollback config current none none
    | some _ => createNewTargetGroup env f protocol config current

def updateQuicConfig (f : CallFaults) (enabled : Bool) : Proc QuicState Exc UpdateQuicResults :=
  if enabled then updateQuicConfigSteps env f .TCP_UDP .QUIC else updateQuicConfigSteps env f .TCP .TCP

/-! ## What an update promises -/

/-- What is seen of a state: the protocols of the listeners; of their target groups, the protocols and whether the
gateway is registered; the egress rule; and the flag in both places. -/
structure Observed where
  listeners : List Protocol
  targetGroups : List (Protocol × Bool)
  egressRule : Bool
  quicSupport : Bool
  localQuicSupport : Bool
  deriving DecidableEq, Repr

/-- What is seen of a state. -/
def observe (s : QuicState) : Observed where
  listeners := s.listeners.map (·.protocol)
  targetGroups := s.attached.map fun group => (group.2.protocol, decide (env.gatewayInstanceId ∈ group.2.targets))
  egressRule := s.egressRule
  quicSupport := s.quicSupport
  localQuicSupport := s.localQuicSupport

/-- What is seen when everything is of one mode. -/
def Config.observed (config : Config) : Observed where
  listeners := [config.protocol]
  targetGroups := [(config.protocol, true)]
  egressRule := config.quicSupport
  quicSupport := config.quicSupport
  localQuicSupport := config.quicSupport

/-- The configuration that is asked for. -/
def requested (enabled : Bool) : Config := if enabled then .QUIC else .TCP

/-- **An update keeps its promise**: it returns; after a success everything is of the requested mode, and after a
complete rollback everything is as before. -/
def UpdateMeets (s : QuicState) (enabled : Bool) (f : CallFaults) : Prop :=
  ∃ result t, (updateQuicConfig env f enabled).run s = (.ok result, t) ∧
    (result = .SUCCESS → observe env t = (requested enabled).observed) ∧
    (result = .ROLLBACK_COMPLETE → observe env t = observe env s)

/-- No call of a creation fails. -/
def CreateFaults.Succeeds (f : CreateFaults) : Prop :=
  f.createTargetGroup = false ∧ f.describeInstances = false ∧ f.registerTargets = false

/-- The calls up to the deletion of the listener succeed. -/
structure Begins (s : QuicState) (f : CallFaults) : Prop where
  arn : env.externalNlbArn ≠ none
  describeTargetGroups : f.describeTargetGroups = false
  listeners : s.listeners ≠ []
  describeListeners : f.describeListeners = false
  deleteListener : f.deleteListener = false

/-- The target group is deleted, and it and the listener are created again. -/
structure Rebuilds (f : CallFaults) : Prop where
  deleteTargetGroup : f.deleteTargetGroup = false
  create : f.create.Succeeds
  createListener : f.createListener = false

/-- The egress rule cannot be changed: a call fails, or the rule is there already. -/
def EgressFails (s : QuicState) (config : Config) (f : CallFaults) : Prop :=
  env.gatewaySecurityGroupId = none ∨ f.updateEgress = true ∨ (config = .QUIC ∧ s.egressRule = true)

/-- Everything succeeds but the write of the flag. -/
structure FlagFails (s : QuicState) (config : Config) (f : CallFaults) : Prop where
  begins : Begins env s f
  rebuilds : Rebuilds f
  egress : ¬ EgressFails env s config f
  setConfigEntry : f.setConfigEntry = true

/-- A call fails after the old target group is deleted, and all calls of the rollback succeed. -/
structure RollsBack (s : QuicState) (config : Config) (f : CallFaults) : Prop where
  begins : Begins env s f
  deleteTargetGroup : f.deleteTargetGroup = false
  create : f.rollback.create.Succeeds
  createListener : f.rollback.createListener = false
  reason : f.create.createTargetGroup = true ∨
    (f.create.Succeeds ∧ f.rollback.deleteTargetGroup = false ∧
      (f.createListener = true ∨ (EgressFails env s config f ∧ f.rollback.deleteListener = false)))

/-- When an update keeps its promise: the write of the flag does not fail alone, and there is no complete rollback from
the mode that is in force. -/
def Harmless (s : QuicState) (enabled : Bool) (f : CallFaults) : Prop :=
  ¬ FlagFails env s (requested enabled) f ∧
    ¬ (s.listeners.map (·.protocol) = [(requested enabled).protocol] ∧ RollsBack env s (requested enabled) f)

/-! ## One call -/

section Calls

variable {s t : QuicState} {c : Proc QuicState Exc α}

theorem run_calling_true (c : Proc QuicState Exc α) (s : QuicState) :
    (calling true c).run s = (.error (clientError "InternalError"), s) := rfl

@[simp] theorem calling_false (c : Proc QuicState Exc α) : calling false c = c := rfl

theorem run_getRequired_some (key value : String) (s : QuicState) :
    (getRequired key (some value)).run s = (.ok value, s) := rfl

theorem run_first_cons (a : α) (as : List α) (s : QuicState) : (first (a :: as)).run s = (.ok a, s) := rfl

theorem run_tried_of_ok {a : α} (h : c.run s = (.ok a, t)) : (tried c).run s = (.ok (some a), t) := by
  unfold tried
  rw [Proc.run_tryCatch, Proc.run_bind_of_ok h]
  rfl

theorem run_tried_of_error {e : Exc} (h : c.run s = (.error e, t)) : (tried c).run s = (.ok none, t) := by
  unfold tried
  rw [Proc.run_tryCatch, Proc.run_bind_of_error h]
  rfl

/-- The listeners, the egress rule and the flag are the same. -/
structure SameRest (s t : QuicState) : Prop where
  egressRule : t.egressRule = s.egressRule
  quicSupport : t.quicSupport = s.quicSupport
  localQuicSupport : t.localQuicSupport = s.localQuicSupport

theorem SameRest.refl (s : QuicState) : SameRest s s := ⟨rfl, rfl, rfl⟩

theorem SameRest.trans {r : QuicState} (h : SameRest s t) (h' : SameRest t r) : SameRest s r :=
  ⟨h'.1.trans h.1, h'.2.trans h.2, h'.3.trans h.3⟩

/-- Every target group with the name has the protocol and the network. -/
def Creatable (s : QuicState) (name : String) (protocol : Protocol) (vpcId : String) : Prop :=
  ∀ tg, s.targetGroups.getItem name = some tg → tg.protocol = protocol ∧ tg.vpcId = vpcId

theorem creatable_of_free {name : String} (h : s.targetGroups.getItem name = none) (protocol : Protocol)
    (vpcId : String) : Creatable s name protocol vpcId := by
  intro tg htg
  rw [h] at htg
  exact nomatch htg

variable {protocol : Protocol} {name vpcId : String}

/-- A target group with the settings is there afterwards. -/
theorem run_createGroup (h : Creatable s name protocol vpcId) :
    ∃ arn t tg, (createGroup name protocol vpcId).run s = (.ok arn, t) ∧ t.listeners = s.listeners ∧ SameRest s t ∧
      arn.name = name ∧ t.targetGroups.getItem name = some tg ∧ tg.id = arn.id ∧ tg.protocol = protocol := by
  unfold createGroup
  rw [Proc.run_bind_of_ok (Proc.run_gets id s)]
  cases hitem : s.targetGroups.getItem name with
  | some tg =>
    obtain ⟨hprotocol, hvpc⟩ := h tg hitem
    refine ⟨⟨name, tg.id⟩, s, tg, ?_, rfl, .refl s, rfl, hitem, rfl, hprotocol⟩
    simp only [id, hitem]
    rw [if_pos ⟨hprotocol, hvpc⟩]
    rfl
  | none =>
    refine ⟨⟨name, s.nextId⟩, { s with
        targetGroups := s.targetGroups.putItem name ⟨s.nextId, protocol, vpcId, []⟩
        nextId := s.nextId + 1 },
      ⟨s.nextId, protocol, vpcId, []⟩, ?_, rfl, ⟨rfl, rfl, rfl⟩, rfl, Table.getItem_putItem_self _ _ _, rfl, rfl⟩
    simp only [id, hitem]
    rfl

variable {tg : TargetGroup}

/-- A name that a target group with another protocol has is refused. -/
theorem createTargetGroup_of_taken (f : CreateFaults) {name : String} (vpcId : String)
    (h : s.targetGroups.getItem name = some tg) (hne : tg.protocol ≠ protocol) :
    ∃ e, (createTargetGroup env f name protocol vpcId).run s = (.error e, s) := by
  unfold createTargetGroup
  cases hf : f.createTargetGroup with
  | true => exact ⟨_, Proc.run_bind_of_error (run_calling_true _ s)⟩
  | false =>
    have hrefused : (createGroup name protocol vpcId).run s =
        (.error (clientError "DuplicateTargetGroupName"), s) := by
      unfold createGroup
      rw [Proc.run_bind_of_ok (Proc.run_gets id s)]
      simp only [id, h]
      rw [if_neg fun hsame => hne hsame.1]
      rfl
    exact ⟨_, Proc.run_bind_of_error hrefused⟩

variable {arn : TargetGroupArn}

theorem find_of_getItem (h : s.targetGroups.getItem arn.name = some tg)
    (hid : tg.id = arn.id) : s.find arn = some tg := by
  unfold QuicState.find
  rw [h, Option.filter_some, if_pos (decide_eq_true hid)]

/-- The target group that `create_target_group` leaves: the gateway is registered. -/
def Registered (protocol : Protocol) (arn : TargetGroupArn) (t : QuicState) : Prop :=
  ∃ tg, t.find arn = some tg ∧ tg.protocol = protocol ∧ env.gatewayInstanceId ∈ tg.targets

/-- **A creation that succeeds**. -/
theorem createTargetGroup_of_creatable {f : CreateFaults} (hf : f.Succeeds) (h : Creatable s name protocol vpcId) :
    ∃ arn t, (createTargetGroup env f name protocol vpcId).run s = (.ok arn, t) ∧ t.listeners = s.listeners ∧
      SameRest s t ∧ Registered env protocol arn t ∧ arn.name = name := by
  obtain ⟨hcreate, hdescribe, hregister⟩ := hf
  obtain ⟨arn, t, tg, hrun, hlisteners, hrest, rfl, hitem, hid, hprotocol⟩ := run_createGroup h
  have hfind := find_of_getItem hitem hid
  refine ⟨arn, { t with targetGroups := t.targetGroups.putItem arn.name (tg.registered env.gatewayInstanceId) },
    ?_, hlisteners, hrest.trans ⟨rfl, rfl, rfl⟩,
    ⟨tg.registered env.gatewayInstanceId, find_of_getItem (Table.getItem_putItem_self _ _ _) hid, hprotocol,
      List.mem_cons_self⟩, rfl⟩
  unfold createTargetGroup
  simp only [hcreate, hdescribe, hregister, calling_false]
  rw [Proc.run_bind_of_ok hrun, Proc.run_bind_of_ok (Proc.run_pure _ t)]
  have hregistered : (registerTargets arn env.gatewayInstanceId).run t =
      (.ok ⟨⟩, { t with targetGroups := t.targetGroups.putItem arn.name (tg.registered env.gatewayInstanceId) }) := by
    unfold registerTargets
    rw [Proc.run_bind_of_ok (Proc.run_gets id t)]
    simp only [id, hfind]
    rfl
  exact Proc.run_bind_of_ok hregistered

/-- **A creation that fails**: nothing is created when the first call fails, and otherwise a target group is left with
the protocol. -/
theorem createTargetGroup_of_not_succeeds {f : CreateFaults} (hf : ¬ f.Succeeds) (h : Creatable s name protocol vpcId) :
    ∃ e t, (createTargetGroup env f name protocol vpcId).run s = (.error e, t) ∧ t.listeners = s.listeners ∧
      SameRest s t ∧ (f.createTargetGroup = true → t = s) ∧
      (f.createTargetGroup = false → ∃ tg, t.targetGroups.getItem name = some tg ∧ tg.protocol = protocol) := by
  unfold createTargetGroup
  cases hcreate : f.createTargetGroup with
  | true =>
    exact ⟨_, s, Proc.run_bind_of_error (run_calling_true _ s), rfl, .refl s, fun _ => rfl, fun h => nomatch h⟩
  | false =>
    obtain ⟨arn, t, tg, hrun, hlisteners, hrest, rfl, hitem, hid, hprotocol⟩ := run_createGroup h
    rw [calling_false, Proc.run_bind_of_ok hrun]
    cases hdescribe : f.describeInstances with
    | true =>
      exact ⟨_, t, Proc.run_bind_of_error (run_calling_true _ t), hlisteners, hrest, (fun h => nomatch h),
        fun _ => ⟨tg, hitem, hprotocol⟩⟩
    | false =>
      have hregister : f.registerTargets = true := by
        by_contra hregister
        exact hf ⟨hcreate, hdescribe, eq_false_of_ne_true hregister⟩
      rw [hregister]
      refine ⟨clientError "InternalError", t, rfl, hlisteners, hrest, (fun h => nomatch h),
        fun _ => ⟨tg, hitem, hprotocol⟩⟩

/-- The only listener has the protocol, and its target group has it too and the gateway. -/
def Serving (p : Protocol) (s : QuicState) : Prop :=
  ∃ l, s.listeners = [l] ∧ l.protocol = p ∧ Registered env p l.targetGroup s

variable {env} {l : Listener}

theorem attached_of_single (hl : s.listeners = [l])
    (hfind : s.find l.targetGroup = some tg) : s.attached = [(l.targetGroup, tg)] := by
  simp [QuicState.attached, hl, List.dedup_eq_self.mpr (List.nodup_singleton l.targetGroup), hfind]

variable {p : Protocol}

theorem observe_of_serving (h : Serving env p s) :
    observe env s = ⟨[p], [(p, true)], s.egressRule, s.quicSupport, s.localQuicSupport⟩ := by
  obtain ⟨l, hl, rfl, tg, hfind, htg, hgateway⟩ := h
  simp [observe, hl, attached_of_single hl hfind, htg, hgateway]

/-- States without a listener, or with one that serves a protocol. -/
def Sound (env : GatewayEnv) (s : QuicState) : Prop := s.listeners = [] ∨ ∃ p, Serving env p s

theorem find_congr (h : t.targetGroups = s.targetGroups) : t.find arn = s.find arn := by
  unfold QuicState.find
  rw [h]

/-- The listener is created when there is none. -/
theorem run_createListener (hbare : s.listeners = [])
    (hregistered : Registered env protocol arn s) : ∃ t, (createListener protocol arn).run s = (.ok s.nextId, t) ∧
      t.listeners = [⟨s.nextId, protocol, listenerPort, arn⟩] ∧ t.targetGroups = s.targetGroups ∧ SameRest s t ∧
      Serving env protocol t := by
  let created : Listener := ⟨s.nextId, protocol, listenerPort, arn⟩
  let after : QuicState := { s with listeners := s.listeners ++ [created], nextId := s.nextId + 1 }
  have hlisteners : after.listeners = [created] := congrArg (· ++ [created]) hbare
  refine ⟨after, ?_, hlisteners, rfl, ⟨rfl, rfl, rfl⟩, created, hlisteners, rfl, hregistered⟩
  unfold createListener
  rw [Proc.run_bind_of_ok (Proc.run_gets id s), if_neg (by simp [hbare])]
  rfl

/-- A target group that no listener forwards to is deleted, and its name is free. -/
theorem run_deleteTargetGroup (hbare : s.listeners = []) (hfind : s.find arn = some tg) :
    (deleteTargetGroup arn).run s = (.ok ⟨⟩, { s with targetGroups := s.targetGroups.deleteItem arn.name }) := by
  unfold deleteTargetGroup
  rw [Proc.run_bind_of_ok (Proc.run_gets id s), if_neg (by simp [hbare])]
  simp only [id, hfind]
  rfl

/-! ### The end of the rollback -/

variable {current : TargetGroupArn × TargetGroup}

/-- **A target group that can be created again**: the rollback is complete when its last calls succeed, and otherwise
there is no listener. -/
theorem recreate_of_creatable (f : RollbackFaults)
    (hbare : s.listeners = []) (hcreatable : Creatable s current.1.name protocol current.2.vpcId) :
    (f.create.Succeeds ∧ f.createListener = false ∧ ∃ t, (recreate env f protocol current).run s =
        (.ok .ROLLBACK_COMPLETE, t) ∧ Serving env protocol t ∧ SameRest s t) ∨
      (¬ (f.create.Succeeds ∧ f.createListener = false) ∧ ∃ t, (recreate env f protocol current).run s =
        (.ok .ERROR, t) ∧ t.listeners = []) := by
  unfold recreate
  by_cases hcreate : f.create.Succeeds
  · obtain ⟨arn, t, hrun, hlisteners, hrest, hregistered, -⟩ := createTargetGroup_of_creatable env hcreate hcreatable
    rw [Proc.run_bind_of_ok (run_tried_of_ok hrun)]
    cases hlistener : f.createListener with
    | true =>
      refine .inr ⟨(fun h => nomatch h.2), t, ?_, hlisteners.trans hbare⟩
      exact Proc.run_bind_of_ok (run_tried_of_error (run_calling_true _ t))
    | false =>
      obtain ⟨r, hcreated, -, -, hrest', hserving⟩ := run_createListener (hlisteners.trans hbare) hregistered
      refine .inl ⟨hcreate, rfl, r, ?_, hserving, hrest.trans hrest'⟩
      exact Proc.run_bind_of_ok (run_tried_of_ok hcreated)
  · obtain ⟨e, t, hrun, hlisteners, -⟩ := createTargetGroup_of_not_succeeds env hcreate hcreatable
    refine .inr ⟨fun h => hcreate h.1, t, ?_, hlisteners.trans hbare⟩
    exact Proc.run_bind_of_ok (run_tried_of_error hrun)

/-- **A name that is taken** by a target group with the other protocol: the rollback fails. -/
theorem recreate_of_taken (f : RollbackFaults) (hitem : s.targetGroups.getItem current.1.name = some tg)
    (hne : tg.protocol ≠ protocol) : (recreate env f protocol current).run s = (.ok .ERROR, s) := by
  obtain ⟨e, hrun⟩ := createTargetGroup_of_taken env f.create current.2.vpcId hitem hne
  unfold recreate
  exact Proc.run_bind_of_ok (run_tried_of_error hrun)

/-! ### The first steps -/

theorem protocol_ne_other (config : Config) : config.protocol ≠ config.other.protocol := by
  cases config <;> decide

theorem eq_other_of_ne {config : Config} (h : p ≠ config.protocol) : p = config.other.protocol := by
  cases config <;> cases p <;> first | rfl | exact absurd rfl h

/-- An update that does not come to delete the listener changes nothing. -/
theorem deleteCurrentListener_of_not_begins {f : CallFaults} (hsound : Sound env s) (h : ¬ Begins env s f) :
    ∃ e, (deleteCurrentListener env f).run s = (.error e, s) := by
  unfold deleteCurrentListener
  cases harn : env.externalNlbArn with
  | none => exact ⟨_, Proc.run_bind_of_error rfl⟩
  | some arn =>
    rw [Proc.run_bind_of_ok (run_getRequired_some _ arn s)]
    cases hgroups : f.describeTargetGroups with
    | true => exact ⟨_, Proc.run_bind_of_error (run_calling_true _ s)⟩
    | false =>
      rw [calling_false, describeTargetGroups, Proc.run_bind_of_ok (Proc.run_gets QuicState.attached s)]
      rcases hsound with hnil | ⟨p, l, hl, -, tg, hfind, -⟩
      · have hattached : s.attached = [] := by simp [QuicState.attached, hnil]
        rw [hattached]
        exact ⟨_, Proc.run_bind_of_error rfl⟩
      · rw [attached_of_single hl hfind, Proc.run_bind_of_ok (run_first_cons _ _ s)]
        cases hlisteners : f.describeListeners with
        | true => exact ⟨_, Proc.run_bind_of_error (run_calling_true _ s)⟩
        | false =>
          rw [calling_false, describeListeners, Proc.run_bind_of_ok (Proc.run_gets QuicState.listeners s), hl,
            Proc.run_bind_of_ok (run_first_cons l [] s)]
          cases hdelete : f.deleteListener with
          | true => exact ⟨_, Proc.run_bind_of_error (run_calling_true _ s)⟩
          | false =>
            refine absurd ⟨?_, hgroups, ?_, hlisteners, hdelete⟩ h
            · rw [harn]
              exact Option.some_ne_none arn
            · rw [hl]
              exact List.cons_ne_nil l []

/-- An update that does leaves no listener. -/
theorem deleteCurrentListener_of_begins {f : CallFaults} (h : Begins env s f)
    (hl : s.listeners = [l]) (hfind : s.find l.targetGroup = some tg) :
    (deleteCurrentListener env f).run s = (.ok (l.targetGroup, tg), { s with listeners := [] }) := by
  unfold deleteCurrentListener
  obtain ⟨harn, hgroups, -, hlisteners, hdelete⟩ := h
  obtain ⟨arn, harn⟩ := Option.ne_none_iff_exists'.mp harn
  simp only [harn, hgroups, hlisteners, hdelete, calling_false]
  rw [Proc.run_bind_of_ok (run_getRequired_some _ arn s), describeTargetGroups,
    Proc.run_bind_of_ok (Proc.run_gets QuicState.attached s), attached_of_single hl hfind,
    Proc.run_bind_of_ok (run_first_cons _ _ s), describeListeners,
    Proc.run_bind_of_ok (Proc.run_gets QuicState.listeners s), hl, Proc.run_bind_of_ok (run_first_cons l [] s)]
  have hdeleted : (deleteListener l.id).run s = (.ok ⟨⟩, { s with listeners := [] }) := by
    unfold deleteListener
    rw [Proc.run_modify, hl]
    simp
  exact Proc.run_bind_of_ok hdeleted

/-! ### The update -/

/-- What an update with an outcome promised. -/
def Promise (env : GatewayEnv) (s : QuicState) (config : Config) (r : Except Exc UpdateQuicResults) (t : QuicState) :
    Prop :=
  ∃ result, r = .ok result ∧ (result = .SUCCESS → observe env t = config.observed) ∧
    (result = .ROLLBACK_COMPLETE → observe env t = observe env s)

/-- An update that is harmless. -/
def HarmlessStep (env : GatewayEnv) (s : QuicState) (config : Config) (f : CallFaults) : Prop :=
  ¬ FlagFails env s config f ∧ ¬ (s.listeners.map (·.protocol) = [config.protocol] ∧ RollsBack env s config f)

/-- A part of an update comes to a sound state, and the promise is kept when the update is harmless. -/
def Settled (env : GatewayEnv) (s : QuicState) (config : Config) (f : CallFaults)
    (c : Proc QuicState Exc UpdateQuicResults) (s' : QuicState) : Prop :=
  ∃ r t, c.run s' = (r, t) ∧ Sound env t ∧ (Promise env s config r t ↔ HarmlessStep env s config f)

variable {config : Config} {f : CallFaults} {s' : QuicState}

theorem settled_of_error {c : Proc QuicState Exc UpdateQuicResults} (hrun : c.run s' = (.ok .ERROR, t))
    (hsound : Sound env t) (hflag : ¬ FlagFails env s config f) (hrollback : ¬ RollsBack env s config f) :
    Settled env s config f c s' := by
  refine ⟨_, t, hrun, hsound, iff_of_true ?_ ⟨hflag, fun h => hrollback h.2⟩⟩
  exact ⟨.ERROR, rfl, fun h => (nomatch h), fun h => (nomatch h)⟩

theorem Settled.of_run {c d : Proc QuicState Exc UpdateQuicResults} (h : Settled env s config f d t)
    (hrun : c.run s' = d.run t) : Settled env s config f c s' := by
  obtain ⟨r, u, hd, hsound, hiff⟩ := h
  exact ⟨r, u, hrun.trans hd, hsound, hiff⟩

/-- **The end of a rollback after the target group is deleted**: it comes back to the other mode, which is the one
before when the requested one was not in force. -/
theorem settled_recreate (hserving : Serving env p s)
    (hbare : s'.listeners = []) (hcreatable : Creatable s' current.1.name config.other.protocol current.2.vpcId)
    (hrest : SameRest s s') (hflag : ¬ FlagFails env s config f)
    (hrollback : p = config.protocol → (RollsBack env s config f ↔
      f.rollback.create.Succeeds ∧ f.rollback.createListener = false)) :
    Settled env s config f (recreate env f.rollback config.other.protocol current) s' := by
  have hforce : s.listeners.map (·.protocol) = [config.protocol] ↔ p = config.protocol := by
    obtain ⟨l, hl, rfl, -⟩ := hserving
    simp [hl]
  rcases recreate_of_creatable f.rollback hbare hcreatable with
    ⟨hcreate, hlistener, t, hrun, hserving', hrest'⟩ | ⟨hfails, t, hrun, hnil⟩
  · refine ⟨_, t, hrun, .inr ⟨_, hserving'⟩, ?_⟩
    obtain ⟨hegress, hquic, hlocal⟩ := hrest.trans hrest'
    have hobserve : observe env t = observe env s ↔ p ≠ config.protocol := by
      rw [observe_of_serving hserving, observe_of_serving hserving', hegress, hquic, hlocal]
      constructor
      · intro h hp
        have hprotocol : config.other.protocol = p := by simpa using congrArg Observed.listeners h
        exact protocol_ne_other config (hp.symm.trans hprotocol.symm)
      · intro hp
        rw [eq_other_of_ne hp]
    constructor
    · rintro ⟨result, hresult, -, hsame⟩
      have hback := hobserve.mp (hsame (Except.ok.inj hresult).symm)
      exact ⟨hflag, fun h => hback (hforce.mp h.1)⟩
    · rintro ⟨-, hnot⟩
      refine ⟨.ROLLBACK_COMPLETE, rfl, fun h => (nomatch h), fun _ => hobserve.mpr fun hp => ?_⟩
      exact hnot ⟨hforce.mpr hp, (hrollback hp).mpr ⟨hcreate, hlistener⟩⟩
  · refine ⟨_, t, hrun, .inl hnil, iff_of_true ?_ ⟨hflag, fun h => ?_⟩⟩
    · exact ⟨.ERROR, rfl, fun h => (nomatch h), fun h => (nomatch h)⟩
    · exact hfails ((hrollback (hforce.mp h.1)).mp h.2)

/-- A rollback with a new target group deletes it first. -/
theorem settled_rollback_group (hserving : Serving env p s) (hname : arn.name = current.1.name)
    (hbare : s'.listeners = [])
    (hfind : s'.find arn = some tg) (hrest : SameRest s s') (hflag : ¬ FlagFails env s config f)
    (hrollback : RollsBack env s config f ↔ f.rollback.deleteTargetGroup = false ∧
      f.rollback.create.Succeeds ∧ f.rollback.createListener = false) : Settled env s config f
      (executeRollbackFromTargetGroup env f.rollback config.other.protocol current (some arn)) s' := by
  cases hdelete : f.rollback.deleteTargetGroup with
  | true =>
    refine settled_of_error (t := s') ?_ (.inl hbare) hflag fun h => ?_
    · unfold executeRollbackFromTargetGroup
      rw [hdelete]
      exact Proc.run_bind_of_ok (run_tried_of_error (run_calling_true _ s'))
    · have hfalse := (hrollback.mp h).1
      rw [hdelete] at hfalse
      exact nomatch hfalse
  | false =>
    have hfree : (s'.targetGroups.deleteItem arn.name).getItem current.1.name = none := by
      rw [hname]
      exact Table.getItem_deleteItem_self _ _
    have hrecreate : Settled env s config f (recreate env f.rollback config.other.protocol current)
        { s' with targetGroups := s'.targetGroups.deleteItem arn.name } := by
      refine settled_recreate hserving hbare (creatable_of_free hfree _ _) (hrest.trans ⟨rfl, rfl, rfl⟩) hflag
        fun _ => ?_
      rw [hrollback, hdelete]
      exact and_iff_right rfl
    refine hrecreate.of_run ?_
    unfold executeRollbackFromTargetGroup
    rw [hdelete]
    exact Proc.run_bind_of_ok (run_tried_of_ok (run_deleteTargetGroup hbare hfind))

/-- A rollback with a new listener deletes it before. -/
theorem settled_rollback_listener (hserving : Serving env p s) (hname : l.targetGroup.name = current.1.name)
    (hl : s'.listeners = [l]) (hsound : Sound env s')
    (hfind : s'.find l.targetGroup = some tg) (hrest : SameRest s s') (hflag : ¬ FlagFails env s config f)
    (hrollback : RollsBack env s config f ↔ f.rollback.deleteListener = false ∧ f.rollback.deleteTargetGroup = false ∧
      f.rollback.create.Succeeds ∧ f.rollback.createListener = false) :
    Settled env s config f (rollback env f.rollback config current (some l.targetGroup) (some l.id)) s' := by
  cases hdelete : f.rollback.deleteListener with
  | true =>
    refine settled_of_error (t := s') ?_ hsound hflag fun h => ?_
    · unfold rollback executeRollbackSteps
      rw [hdelete]
      exact Proc.run_bind_of_ok (run_tried_of_error (run_calling_true _ s'))
    · have hfalse := (hrollback.mp h).1
      rw [hdelete] at hfalse
      exact nomatch hfalse
  | false =>
    have hdeleted : (deleteListener l.id).run s' = (.ok ⟨⟩, { s' with listeners := [] }) := by
      unfold deleteListener
      rw [Proc.run_modify, hl]
      simp
    have hgroup : Settled env s config f (executeRollbackFromTargetGroup env f.rollback config.other.protocol current
        (some l.targetGroup)) { s' with listeners := [] } := by
      refine settled_rollback_group hserving hname rfl hfind (hrest.trans ⟨rfl, rfl, rfl⟩) hflag ?_
      rw [hrollback, hdelete]
      exact and_iff_right rfl
    refine hgroup.of_run ?_
    unfold rollback executeRollbackSteps
    rw [hdelete]
    exact Proc.run_bind_of_ok (run_tried_of_ok hdeleted)

/-- The egress rule is not changed when that fails. -/
theorem updateEgress_of_fails (h : EgressFails env s config f) (hegress : t.egressRule = s.egressRule) :
    ∃ e, (updateEgress env f.updateEgress config).run t = (.error e, t) := by
  unfold updateEgress
  cases hgroup : env.gatewaySecurityGroupId with
  | none => exact ⟨_, Proc.run_bind_of_error rfl⟩
  | some group =>
    rw [Proc.run_bind_of_ok (run_getRequired_some _ group t)]
    rcases h with hnone | hfault | ⟨rfl, hrule⟩
    · rw [hgroup] at hnone
      exact nomatch hnone
    · rw [hfault]
      exact ⟨_, run_calling_true _ t⟩
    · cases f.updateEgress with
      | true => exact ⟨_, run_calling_true _ t⟩
      | false =>
        refine ⟨clientError "InvalidPermission.Duplicate", ?_⟩
        rw [calling_false, Proc.run_bind_of_ok (Proc.run_gets id t)]
        show (if t.egressRule = true then _ else _ : Proc QuicState Exc PUnit).run t = _
        rw [if_pos (hegress.trans hrule)]
        rfl

/-- Otherwise the rule is there for QUIC, and not for TCP. -/
theorem updateEgress_of_not_fails (h : ¬ EgressFails env s config f) (hegress : t.egressRule = s.egressRule) :
    (updateEgress env f.updateEgress config).run t = (.ok ⟨⟩, { t with egressRule := config.quicSupport }) := by
  unfold EgressFails at h
  push Not at h
  obtain ⟨hgroup, hfault, hrule⟩ := h
  obtain ⟨group, hgroup⟩ := Option.ne_none_iff_exists'.mp hgroup
  unfold updateEgress
  rw [hgroup, Proc.run_bind_of_ok (run_getRequired_some _ group t), eq_false_of_ne_true hfault, calling_false,
    Proc.run_bind_of_ok (Proc.run_gets id t)]
  cases config with
  | TCP => rfl
  | QUIC =>
    show (if t.egressRule = true then _ else _ : Proc QuicState Exc PUnit).run t = _
    rw [if_neg fun htrue => hrule rfl (hegress.symm.trans htrue)]
    rfl

/-- **The egress rule and the flag**: everything is of the requested mode at the end, or the rollback starts. -/
theorem settled_updateEgressAndFlag (hserving : Serving env p s) (hbegins : Begins env s f) (hrebuilds : Rebuilds f)
    (hname : l.targetGroup.name = current.1.name) (hl : s'.listeners = [l]) (hprotocol : l.protocol = config.protocol)
    (hregistered : Registered env config.protocol l.targetGroup s') (hrest : SameRest s s') :
    Settled env s config f (updateEgressAndFlag env f config current l.targetGroup l.id) s' := by
  have hnew : Serving env config.protocol s' := ⟨l, hl, hprotocol, hregistered⟩
  unfold updateEgressAndFlag
  by_cases hegress : EgressFails env s config f
  · obtain ⟨e, hrun⟩ := updateEgress_of_fails hegress hrest.egressRule
    obtain ⟨tg, hfind, -⟩ := hregistered
    refine Settled.of_run (settled_rollback_listener hserving hname hl (.inr ⟨_, hnew⟩) hfind hrest
      (fun h => h.egress hegress) ?_) (Proc.run_bind_of_ok (run_tried_of_error hrun))
    constructor
    · rintro ⟨-, -, hcreate, hlistener, hfirst | ⟨-, hgroup, hlast | ⟨-, hdelete⟩⟩⟩
      · exact absurd (hrebuilds.create.1.symm.trans hfirst) Bool.false_ne_true
      · exact absurd (hrebuilds.createListener.symm.trans hlast) Bool.false_ne_true
      · exact ⟨hdelete, hgroup, hcreate, hlistener⟩
    · rintro ⟨hdelete, hgroup, hcreate, hlistener⟩
      exact ⟨hbegins, hrebuilds.deleteTargetGroup, hcreate, hlistener,
        .inr ⟨hrebuilds.create, hgroup, .inr ⟨hegress, hdelete⟩⟩⟩
  · have hnorollback : ¬ RollsBack env s config f := by
      rintro ⟨-, -, -, -, hfirst | ⟨-, -, hlast | ⟨hfails, -⟩⟩⟩
      · exact absurd (hrebuilds.create.1.symm.trans hfirst) Bool.false_ne_true
      · exact absurd (hrebuilds.createListener.symm.trans hlast) Bool.false_ne_true
      · exact hegress hfails
    have hrun := updateEgress_of_not_fails hegress hrest.egressRule
    refine Settled.of_run ?_ (Proc.run_bind_of_ok (run_tried_of_ok hrun))
    cases hflag : f.setConfigEntry with
    | true =>
      -- the write of the flag is in no `try`
      refine ⟨_, _, Proc.run_bind_of_error (Proc.run_bind_of_error (run_calling_true _ _)), .inr ⟨_, hnew⟩,
        iff_of_false ?_ fun h => h.1 ⟨hbegins, hrebuilds, hegress, hflag⟩⟩
      rintro ⟨result, hresult, -⟩
      exact nomatch hresult
    | false =>
      refine ⟨.ok .SUCCESS, { s' with
          egressRule := config.quicSupport
          quicSupport := config.quicSupport
          localQuicSupport := config.quicSupport }, rfl, .inr ⟨config.protocol, hnew⟩,
        iff_of_true ⟨.SUCCESS, rfl, fun _ => ?_, fun h => (nomatch h)⟩ ⟨fun h => ?_, fun h => hnorollback h.2⟩⟩
      · exact observe_of_serving (p := config.protocol) hnew
      · exact absurd (hflag.symm.trans h.setConfigEntry) Bool.false_ne_true

/-- **The new listener**. -/
theorem settled_createNewListener (hserving : Serving env p s) (hbegins : Begins env s f)
    (hdelete : f.deleteTargetGroup = false) (hcreate : f.create.Succeeds) (hname : arn.name = current.1.name)
    (hbare : s'.listeners = []) (hregistered : Registered env config.protocol arn s') (hrest : SameRest s s') :
    Settled env s config f (createNewListener env f config.protocol config current arn) s' := by
  unfold createNewListener
  cases hlistener : f.createListener with
  | true =>
    obtain ⟨tg, hfind, -⟩ := hregistered
    refine Settled.of_run (settled_rollback_group hserving hname hbare hfind hrest (fun h => ?_) ?_)
      (Proc.run_bind_of_ok (run_tried_of_error (run_calling_true _ s')))
    · exact absurd (hlistener.symm.trans h.rebuilds.createListener) Bool.false_ne_true.symm
    · constructor
      · rintro ⟨-, -, hagain, hlast, hfirst | ⟨-, hgroup, -⟩⟩
        · exact absurd (hcreate.1.symm.trans hfirst) Bool.false_ne_true
        · exact ⟨hgroup, hagain, hlast⟩
      · rintro ⟨hgroup, hagain, hlast⟩
        exact ⟨hbegins, hdelete, hagain, hlast, .inr ⟨hcreate, hgroup, .inl hlistener⟩⟩
  | false =>
    obtain ⟨t, hrun, hl, hgroups, hrest', -⟩ := run_createListener hbare hregistered
    refine Settled.of_run ?_ (Proc.run_bind_of_ok (run_tried_of_ok hrun))
    obtain ⟨tg, hfind, htg⟩ := hregistered
    exact settled_updateEgressAndFlag (l := ⟨s'.nextId, config.protocol, listenerPort, arn⟩) hserving hbegins
      ⟨hdelete, hcreate, hlistener⟩ hname hl rfl ⟨tg, (find_congr hgroups).trans hfind, htg⟩ (hrest.trans hrest')

/-- **The new target group**. -/
theorem settled_createNewTargetGroup (hserving : Serving env p s) (hbegins : Begins env s f)
    (hdelete : f.deleteTargetGroup = false) (hbare : s'.listeners = [])
    (hfree : s'.targetGroups.getItem current.1.name = none) (hrest : SameRest s s') :
    Settled env s config f (createNewTargetGroup env f config.protocol config current) s' := by
  unfold createNewTargetGroup
  by_cases hcreate : f.create.Succeeds
  · obtain ⟨arn, t, hrun, hlisteners, hrest', hregistered, hname⟩ :=
      createTargetGroup_of_creatable env hcreate (creatable_of_free hfree config.protocol current.2.vpcId)
    refine Settled.of_run ?_ (Proc.run_bind_of_ok (run_tried_of_ok hrun))
    exact settled_createNewListener hserving hbegins hdelete hcreate hname (hlisteners.trans hbare) hregistered
      (hrest.trans hrest')
  · obtain ⟨e, t, hrun, hlisteners, hrest', hnothing, hleft⟩ :=
      createTargetGroup_of_not_succeeds env hcreate (creatable_of_free hfree config.protocol current.2.vpcId)
    have hnoflag : ¬ FlagFails env s config f := fun h => hcreate h.rebuilds.create
    refine Settled.of_run ?_ (Proc.run_bind_of_ok (run_tried_of_error hrun))
    show Settled env s config f (recreate env f.rollback config.other.protocol current) t
    cases hfirst : f.create.createTargetGroup with
    | true =>
      obtain rfl := hnothing hfirst
      refine settled_recreate hserving hbare (creatable_of_free hfree _ _) hrest hnoflag fun _ => ?_
      exact ⟨fun h => ⟨h.create, h.createListener⟩, fun h => ⟨hbegins, hdelete, h.1, h.2, .inl hfirst⟩⟩
    | false =>
      obtain ⟨tg, hitem, htg⟩ := hleft hfirst
      refine settled_of_error (recreate_of_taken f.rollback hitem (htg.symm ▸ protocol_ne_other config))
        (.inl (hlisteners.trans hbare)) hnoflag ?_
      rintro ⟨-, -, -, -, hfault | ⟨hsucceeds, -⟩⟩
      · exact absurd (hfirst.symm.trans hfault) Bool.false_ne_true
      · exact hcreate hsucceeds

/-- **One update**: it comes to a sound state, and keeps its promise exactly when it is harmless. -/
theorem settled_updateQuicConfigSteps (config : Config) (f : CallFaults) (hsound : Sound env s) :
    Settled env s config f (updateQuicConfigSteps env f config.protocol config) s := by
  unfold updateQuicConfigSteps
  by_cases hbegins : Begins env s f
  · obtain ⟨p, hserving⟩ := hsound.resolve_left hbegins.listeners
    obtain ⟨l, hl, hlp, tg, hfind, htg, -⟩ := id hserving
    refine Settled.of_run ?_ (Proc.run_bind_of_ok (run_tried_of_ok (deleteCurrentListener_of_begins hbegins hl hfind)))
    cases hdelete : f.deleteTargetGroup with
    | true =>
      refine Settled.of_run (d := recreate env f.rollback config.other.protocol (l.targetGroup, tg))
        (t := { s with listeners := [] }) ?_ (Proc.run_bind_of_ok (run_tried_of_error (run_calling_true _ _)))
      have hnoflag : ¬ FlagFails env s config f := fun h =>
        absurd (hdelete.symm.trans h.rebuilds.deleteTargetGroup) Bool.false_ne_true.symm
      have hitem : s.targetGroups.getItem l.targetGroup.name = some tg := (Option.filter_eq_some_iff.mp hfind).1
      by_cases hp : p = config.protocol
      · refine settled_of_error (recreate_of_taken f.rollback hitem ?_) (.inl rfl) hnoflag fun h => ?_
        · rw [htg, hp]
          exact protocol_ne_other config
        · exact absurd (hdelete.symm.trans h.deleteTargetGroup) Bool.false_ne_true.symm
      · refine settled_recreate hserving rfl (fun tg' htg' => ?_) ⟨rfl, rfl, rfl⟩ hnoflag fun h => absurd h hp
        obtain rfl := Option.some.inj (hitem.symm.trans htg')
        exact ⟨htg.trans (eq_other_of_ne hp), rfl⟩
    | false =>
      refine Settled.of_run ?_ (Proc.run_bind_of_ok (run_tried_of_ok (run_deleteTargetGroup rfl hfind)))
      exact settled_createNewTargetGroup hserving hbegins hdelete rfl (Table.getItem_deleteItem_self _ _)
        ⟨rfl, rfl, rfl⟩
  · obtain ⟨e, hrun⟩ := deleteCurrentListener_of_not_begins hsound hbegins
    refine ⟨.ok .ROLLBACK_COMPLETE, s, Proc.run_bind_of_ok (run_tried_of_error hrun), hsound, iff_of_true ?_ ?_⟩
    · exact ⟨.ROLLBACK_COMPLETE, rfl, fun h => (nomatch h), fun _ => rfl⟩
    · exact ⟨fun h => hbegins h.begins, fun h => hbegins h.2.begins⟩

end Calls

/-! ## Runs of updates -/

section Runs

variable {env : GatewayEnv} {s : QuicState}

theorem updateQuicConfig_eq (env : GatewayEnv) (f : CallFaults) (enabled : Bool) :
    updateQuicConfig env f enabled = updateQuicConfigSteps env f (requested enabled).protocol (requested enabled) := by
  cases enabled <;> rfl

/-- An update keeps its promise exactly when it is harmless. -/
theorem updateMeets_iff (hsound : Sound env s) (enabled : Bool) (f : CallFaults) :
    UpdateMeets env s enabled f ↔ Harmless env s enabled f := by
  obtain ⟨r, t, hrun, -, hiff⟩ := settled_updateQuicConfigSteps (requested enabled) f hsound
  refine Iff.trans ?_ hiff
  unfold UpdateMeets Promise
  rw [updateQuicConfig_eq, hrun]
  constructor
  · rintro ⟨result, t', hsame, hpromise⟩
    rw [Prod.mk.injEq] at hsame
    obtain ⟨hresult, rfl⟩ := hsame
    exact ⟨result, hresult, hpromise⟩
  · rintro ⟨result, hresult, hpromise⟩
    exact ⟨result, t, by rw [hresult], hpromise⟩

theorem sound_run (hsound : Sound env s) (enabled : Bool) (f : CallFaults) :
    Sound env ((updateQuicConfig env f enabled).run s).2 := by
  obtain ⟨r, t, hrun, ht, -⟩ := settled_updateQuicConfigSteps (requested enabled) f hsound
  rw [updateQuicConfig_eq, hrun]
  exact ht

/-- One listener with one target group and the gateway, and the egress rule and the flag, all of one mode. -/
def OfOneMode (env : GatewayEnv) (s : QuicState) : Prop :=
  ∃ config : Config, Serving env config.protocol s ∧ s.egressRule = config.quicSupport ∧
    s.quicSupport = config.quicSupport ∧ s.localQuicSupport = config.quicSupport

/-- Updates one after the other, each to one of the modes and with any faults. -/
def quicUpdates (env : GatewayEnv) : System QuicState (Bool × CallFaults) where
  init := OfOneMode env
  next s call := some ((updateQuicConfig env call.2 call.1).run s).2

/-- **Runs of updates**: from a state of one mode, every update of a run keeps its promise exactly when every one of
them is harmless. -/
theorem quicUpdates_iff (h : (quicUpdates env).init s) (calls : List (Bool × CallFaults)) :
    (quicUpdates env).Meets (fun s call => UpdateMeets env s call.1 call.2) s calls ↔
      (quicUpdates env).Meets (fun s call => Harmless env s call.1 call.2) s calls := by
  obtain ⟨config, hserving, -⟩ := h
  refine System.meets_congr (I := Sound env) (fun s call t hs _ hnext => ?_)
    (fun s call hs => updateMeets_iff hs call.1 call.2) (.inr ⟨_, hserving⟩) calls
  rw [← Option.some.inj hnext]
  exact sound_run hs call.1 call.2

end Runs

/-! ### QUIC is enabled again -/

/-- A network load balancer with a gateway. -/
def vdcGateway : GatewayEnv where
  externalNlbArn := some "arn:aws:elasticloadbalancing:nlb"
  gatewaySecurityGroupId := some "sg-1"
  gatewayInstanceId := "i-1"

/-- The state with QUIC enabled. -/
def quicEnabled : QuicState where
  listeners := [⟨1, .TCP_UDP, 443, ⟨"vdc-ext", 0⟩⟩]
  targetGroups := (∅ : Table String TargetGroup).putItem "vdc-ext" ⟨0, .TCP_UDP, "vpc-1", ["i-1"]⟩
  nextId := 2
  egressRule := true
  quicSupport := true
  localQuicSupport := true

/-- No call fails. -/
def noFaults : CallFaults where
  describeTargetGroups := false
  describeListeners := false
  deleteListener := false
  deleteTargetGroup := false
  create := ⟨false, false, false⟩
  createListener := false
  updateEgress := false
  setConfigEntry := false
  rollback := ⟨false, false, ⟨false, false, false⟩, false⟩

theorem ofOneMode_quicEnabled : OfOneMode vdcGateway quicEnabled := by
  refine ⟨.QUIC, ⟨_, rfl, rfl, ⟨0, .TCP_UDP, "vpc-1", ["i-1"]⟩, ?_, rfl, List.mem_singleton.mpr rfl⟩, rfl, rfl, rfl⟩
  exact find_of_getItem (Table.getItem_putItem_self _ _ _) rfl

/-- QUIC is enabled again, and no call fails: the rule for UDP is there already, and the rollback leaves TCP. -/
theorem not_updateMeets_again : OfOneMode vdcGateway quicEnabled ∧
    ¬ (quicUpdates vdcGateway).Meets (fun s call => UpdateMeets vdcGateway s call.1 call.2) quicEnabled
      [(true, noFaults)] := by
  refine ⟨ofOneMode_quicEnabled, fun h => ?_⟩
  obtain ⟨config, hserving, -⟩ := ofOneMode_quicEnabled
  have hharmless := (updateMeets_iff (.inr ⟨_, hserving⟩) true noFaults).mp h.1
  have hbegins : Begins vdcGateway quicEnabled noFaults := ⟨Option.some_ne_none _, rfl, List.cons_ne_nil _ _, rfl, rfl⟩
  exact hharmless.2 ⟨rfl, hbegins, rfl, ⟨rfl, rfl, rfl⟩, rfl,
    .inr ⟨⟨rfl, rfl, rfl⟩, rfl, .inr ⟨.inr (.inr ⟨rfl, rfl⟩), rfl⟩⟩⟩

/-- QUIC is disabled, and no call fails. -/
theorem quicUpdates_iff_disable :
    (quicUpdates vdcGateway).Meets (fun s call => UpdateMeets vdcGateway s call.1 call.2) quicEnabled
        [(false, noFaults)] ↔
      (quicUpdates vdcGateway).Meets (fun s call => Harmless vdcGateway s call.1 call.2) quicEnabled
        [(false, noFaults)] :=
  quicUpdates_iff ofOneMode_quicEnabled [(false, noFaults)]

end ContainRes.QuicUpdate
