import ContainRes.Store.InsertionDict
import ContainRes.Store.Table
import ContainRes.Text.Python

/-! # The requests of hosts to join the directory

A host that joins the directory sends a message with a nonce. `PresetComputeHelper` creates the account of its
computer with `adcli`, on one domain controller after the other, and writes the outcome to a table that the host
polls; `ADAutomationAgent` deletes the message by the error code alone.

* **`Log`** — the commands that were run, with their results; what `adcli` answers may depend on all of it.
* **`newHelper`** — the constructor, with the discovery of the domain controllers.
* **`invoke`** — the attempts, by recursion on the domain controllers that are left.
* **`handleMessage`** — the agent on one message: whether it is deleted.
* **`JoinMeets`** — there is one attempt for each domain controller at most; and either the message stays and no entry
  is written, or it is deleted and there is an entry with the outcome.
* **`joinMeets_iff`** — the messages and settings for which that is so. -/

namespace ContainRes.PresetComputer

open Effects Store Text

/-! ## Commands -/

/-- The exceptions: the two error codes of the helper, and all others. -/
inductive PresetExc
  /-- `AD_AUTOMATION_PRESET_COMPUTER_FAILED`. -/
  | failed (message : String)
  /-- `AD_AUTOMATION_PRESET_COMPUTER_RETRY`. -/
  | retry (message : String)
  | other (message : String)
  deriving DecidableEq, Repr

/-- The result of a command, with its output stripped. -/
structure CommandResult where
  returncode : ℤ
  stdout : String
  stderr : String
  totalTimeMs : ℕ
  deriving DecidableEq, Repr

/-- The commands that the helper runs. -/
inductive Command
  /-- `command -v adcli`. -/
  | commandV
  /-- `adcli info`. -/
  | info
  /-- `adcli delete-computer`. -/
  | deleteComputer (domainControllerIp : String)
  /-- `adcli preset-computer`. -/
  | presetComputer (domainControllerIp oneTimePassword : String)
  deriving DecidableEq, Repr

/-- The commands that were run, in order. -/
abbrev Log : Type := List (Command × CommandResult)

/-- The domain controllers of the attempts to create the account, in order. -/
def attempts (log : Log) : List String :=
  log.filterMap fun run => match run.1 with
    | .presetComputer domainControllerIp _ => some domainControllerIp
    | _ => none

/-- The one-time password that the last accepted command set. -/
def lastAccepted (log : Log) : Option String :=
  (log.filterMap fun run => match run.1 with
    | .presetComputer _ oneTimePassword => if run.2.returncode = 0 then some oneTimePassword else none
    | _ => none).getLast?

/-! ## The environment -/

/-- An instance: its tags. -/
structure Ec2Instance where
  socaNodeType : Option String
  ideaModuleId : Option String
  deriving DecidableEq, Repr

/-- The exceptions of `ec2_describe_instances`. -/
inductive DescribeError
  | clientError (code : String)
  | other (message : String)
  deriving DecidableEq, Repr

/-- The settings, the directory, the instances, and what commands, searches and random choices answer after the
commands that were run. -/
structure PresetEnv where
  /-- `cluster.aws.account_id`. -/
  awsAccount : Option String
  /-- `cluster.cluster_name`. -/
  clusterName : Option String
  /-- `cluster.aws.region`. -/
  awsRegion : Option String
  /-- `directoryservice.ad_automation.hostname_prefix`. -/
  hostnamePrefix : Option String
  /-- `directoryservice.computers.ou`. -/
  computersOu : Option String
  domainName : String
  adNetbios : String
  ldapRootUsername : String
  ldapBase : String
  describeInstances : String → Except DescribeError (List Ec2Instance)
  shake256 : String → String
  /-- `str.upper`. -/
  upper : String → String
  adcli : Log → Command → CommandResult
  /-- The number of computers that a search under a base finds. -/
  searchComputers : Log → String → String → Except String ℕ
  choice : Log → ℕ → Char
  currentTimeMs : ℕ
  /-- `directoryservice.ad_automation.entry_ttl_seconds`. -/
  entryTtlSeconds : ℕ

/-- The `status` of an entry. -/
inductive Status
  | success
  | fail
  deriving DecidableEq, Repr

/-- An entry of the table, under the instance and the nonce. -/
structure AutomationEntry where
  hostname : String
  status : Status
  otp : Option String
  domainController : Option String
  errorCode : Option String
  message : Option String
  nodeType : Option String
  moduleId : Option String
  ttl : ℕ
  createdOn : ℕ
  updatedOn : ℕ
  deriving DecidableEq, Repr

/-- The commands that were run, and the table. -/
structure PresetState where
  log : Log
  entries : Table (String × String) AutomationEntry

/-- A message of the queue: what the agent and the helper read of it. -/
structure QueueMessage where
  senderId : Option String
  nameSpace : Option String
  nonce : Option String
  hostname : Option String
  deriving DecidableEq, Repr

/-- A helper. -/
structure PresetComputeHelper where
  instanceId : String
  nonce : String
  ec2Instance : Ec2Instance
  hostname : String
  adcli : String
  deriving DecidableEq, Repr

variable (env : PresetEnv)

/-- `self._shell.invoke(cmd)`. -/
def invokeShell (command : Command) : Proc PresetState PresetExc CommandResult := do
  let s ← Proc.gets id
  Proc.modify fun s => { s with log := s.log ++ [(command, env.adcli s.log command)] }
  return env.adcli s.log command

/-- A setting that is required. -/
def getRequired (key : String) (value : Option String) : Proc PresetState PresetExc String :=
  match value with
  | none => Proc.raise (.other key)
  | some value => pure value

def logTag (hostname : Option String) (instanceId nonce : String) : String :=
  let host := hostname.getD "None"
  s!"(Host: {host}, InstanceId: {instanceId}, Nonce: {nonce})"

/-! ## The discovery of the domain controllers -/

/-- What is in front of the first `sep`, and what is behind it. -/
def breakOn (sep : List Char) : List Char → Option (List Char × List Char)
  | [] => none
  | c :: rest =>
    if sep.isPrefixOf (c :: rest) then some ([], (c :: rest).drop sep.length)
    else (breakOn sep rest).map fun parts => (c :: parts.1, parts.2)

/-- `line.split(sep)[0]`. -/
def splitFirst (sep line : List Char) : List Char := ((breakOn sep line).map Prod.fst).getD line

/-- `line.split(sep)[1]`, unless there is an `IndexError`. -/
def splitSecond (sep line : List Char) : Option (List Char) :=
  (breakOn sep line).map fun parts => splitFirst sep parts.2

/-- The characters at which `str.splitlines` splits. -/
def isLineBreak (c : Char) : Bool :=
  let n := c.toNat
  (10 ≤ n && n ≤ 13) || (28 ≤ n && n ≤ 30) || n == 0x85 || n == 0x2028 || n == 0x2029

/-- The key and the value on a line of the output, unless the line is skipped. -/
def parseLine (line : List Char) : Option (String × String) :=
  let line := stripList line
  if line.head? = some '[' then none
  else
    match splitSecond "= ".toList line with
    | none => none
    | some value =>
      let key := splitFirst " =".toList line
      if (stripList key).isEmpty || (stripList value).isEmpty then none
      else some (String.ofList key, String.ofList value)

/-- `domain_query`. The pieces between line breaks are the lines, and some empty ones, which are skipped. -/
def domainQuery (stdout : String) : InsertionDict String String :=
  .ofList ((stdout.toList.splitOnP isLineBreak).filterMap parseLine)

/-- `value.strip().split()`. -/
def words (value : String) : List String :=
  ((value.toList.splitOnP isSpace).filter fun word => !word.isEmpty).map String.ofList

/-- The domain controllers in the output of `adcli info`, whose domain must be the one that is configured. -/
def parseDomainControllers (tag stdout : String) : Except PresetExc (List String) :=
  let query := domainQuery stdout
  match getAsString (query.getItem "domain-name") with
  | none => .error (.retry s!"{tag} Unable to validate AD domain discovery for domain-name: {env.domainName}")
  | some domainName =>
    if env.upper domainName ≠ env.upper env.domainName then
      .error (.retry (s!"{tag} AD domain discovery mismatch for domain-name: Got: {env.upper domainName} " ++
        s!"Expected: {env.upper env.domainName}"))
    else match getAsString (query.getItem "domain-short") with
      | none =>
        .error (.retry s!"{tag} Unable to validate AD domain discovery for domain shortname: {env.domainName}")
      | some domainShortname =>
        if env.upper domainShortname ≠ env.upper env.adNetbios then
          .error (.retry (s!"{tag} AD domain discovery mismatch for shortname: Got: {env.upper domainShortname} " ++
            s!"Expected: {env.upper env.adNetbios}"))
        else
          let domainControllers := words ((query.getItem "domain-controllers").getD "")
          if domainControllers = [] then
            .error (.retry (s!"{tag} no domain controllers found for AD domain: {env.domainName}. " ++
              "check your firewall settings and verify if traffic is allowed on port 53."))
          else .ok domainControllers

def getDomainControllerIpAddresses (tag : String) : Proc PresetState PresetExc (List String) := do
  let result ← invokeShell env .info
  if result.returncode ≠ 0 then
    Proc.raise (.retry s!"{tag} failed to perform adcli information discovery on AD domain: {env.domainName}")
  else Proc.liftExcept (parseDomainControllers env tag result.stdout)

/-! ## The constructor -/

/-- The prefix of generated hostnames. -/
def prefixOf : String := env.hostnamePrefix.getD "IDEA-"

/-- The hostname of the request, or a generated one. -/
def hostnameFor (awsRegion awsAccount clusterName instanceId nonce : String) (hostname : Option String) :
    Except PresetExc String :=
  match getAsString hostname with
  | some hostname => .ok hostname
  | none =>
    let hostnamePrefix := prefixOf env
    let availChars : ℤ := 15 - hostnamePrefix.length
    if availChars < 4 then
      .error (.failed (s!"{logTag none instanceId nonce}configured hostname_prefix is too large. " ++
        "Required at least 4 char of random data. Decrease the size of " ++
        s!"directoryservice.ad_automation.hostname_prefix: {hostnamePrefix.length}"))
    else
      let shakeValue := (env.shake256 s!"{awsRegion}|{awsAccount}|{clusterName}|{instanceId}").toList
      .ok (env.upper (hostnamePrefix ++ String.ofList (shakeValue.drop (shakeValue.length - availChars.toNat))))

/-- The instance that sent the request; the id of the sender is that of its role, a colon, and its own. -/
def verifySender (senderId : String) : Except PresetExc (String × Ec2Instance) :=
  match splitChar ':' senderId with
  | [_, instanceId] =>
    match env.describeInstances instanceId with
    | .error (.clientError code) =>
      if startsWith code "InvalidInstanceID" then
        .error (.failed s!"Unable to verify cluster node identity: Invalid InstanceId - {instanceId}")
      else .error (.other code)
    | .error (.other message) => .error (.other message)
    | .ok [] => .error (.failed s!"Unable to verify cluster node identity: InstanceId = {instanceId} not found")
    | .ok (ec2Instance :: _) => .ok (instanceId, ec2Instance)
  | _ => .error (.failed "Unable to verify cluster node identity: Invalid SenderId")

/-- `PresetComputeHelper(...)`, with the domain controllers that it has found. -/
def newHelper (message : QueueMessage) : Proc PresetState PresetExc (PresetComputeHelper × List String) := do
  let awsAccount ← getRequired "cluster.aws.account_id" env.awsAccount
  let clusterName ← getRequired "cluster.cluster_name" env.clusterName
  let awsRegion ← getRequired "cluster.aws.region" env.awsRegion
  match getAsString message.senderId with
  | none => Proc.raise (.failed "Unable to verify cluster node identity: SenderId is required")
  | some senderId =>
    match getAsString message.nonce with
    | none => Proc.raise (.failed "nonce is required")
    | some nonce => do
      let (instanceId, ec2Instance) ← Proc.liftExcept (verifySender env senderId)
      let hostname ← Proc.liftExcept
        (hostnameFor env awsRegion awsAccount clusterName instanceId nonce message.hostname)
      let whichAdcli ← invokeShell env .commandV
      if whichAdcli.returncode ≠ 0 then
        Proc.raise (.other "unable to locate adcli on system to initialize PresetComputerHelper")
      else do
        let domainControllerIps ← getDomainControllerIpAddresses env (logTag (some hostname) instanceId nonce)
        return (⟨instanceId, nonce, ec2Instance, hostname, whichAdcli.stdout⟩, domainControllerIps)

/-! ## The attempts -/

def getLdapComputersBase : Except PresetExc String :=
  match env.computersOu with
  | none => .error (.other "directoryservice.computers.ou")
  | some ou => .ok (if '=' ∈ ou.toList then ou else s!"ou={ou},ou={env.adNetbios},{env.ldapBase}")

namespace PresetComputeHelper

variable (helper : PresetComputeHelper)

/-- `log_tag`. -/
def tag : String := logTag (some helper.hostname) helper.instanceId helper.nonce

/-- The arguments of a command. -/
def args : Command → List String
  | .commandV => ["command -v adcli"]
  | .info => [helper.adcli, "info", env.upper env.domainName]
  | .deleteComputer domainControllerIp =>
    [helper.adcli, "delete-computer", "--domain-controller=" ++ domainControllerIp,
      "--login-user=" ++ env.ldapRootUsername, "--stdin-password", "--domain=" ++ env.domainName,
      "--domain-realm=" ++ env.upper env.domainName, helper.hostname]
  | .presetComputer domainControllerIp oneTimePassword =>
    [helper.adcli, "preset-computer", "--domain-controller=" ++ domainControllerIp,
      "--login-user=" ++ env.ldapRootUsername, "--stdin-password", "--one-time-password=" ++ oneTimePassword,
      "--domain=" ++ env.domainName, "--domain-ou=" ++ ((getLdapComputersBase env).toOption.getD ""),
      "--verbose", helper.hostname]

/-- `str(result)` of a command that failed. -/
def resultText (command : Command) (result : CommandResult) : String :=
  let output := if isEmpty result.stderr then result.stdout else result.stderr
  let shellCommand := String.intercalate " " (helper.args env command)
  s!"shell> {shellCommand} >> returncode: {result.returncode} >> stderr: {output} >> {result.totalTimeMs} ms"

def isExistingComputerAccount : Proc PresetState PresetExc Bool := do
  let base ← Proc.liftExcept (getLdapComputersBase env)
  let s ← Proc.gets id
  match env.searchComputers s.log base s!"(&(objectClass=computer)(cn={helper.hostname}))" with
  | .error message => Proc.raise (.other message)
  | .ok count => return 0 < count

def deleteComputer (domainControllerIp : String) : Proc PresetState PresetExc PUnit := do
  let result ← invokeShell env (.deleteComputer domainControllerIp)
  if result.returncode ≠ 0 then
    Proc.raise (.failed (helper.tag ++ " failed to delete existing computer account: " ++
      helper.resultText env (.deleteComputer domainControllerIp) result))
  else pure ⟨⟩

/-- A one-time password: 120 characters, chosen at random. -/
def oneTimePassword (log : Log) : String := String.ofList ((List.range 120).map (env.choice log))

def presetComputer (domainControllerIp : String) : Proc PresetState PresetExc String := do
  let s ← Proc.gets id
  let otp := oneTimePassword env s.log
  if otp.length ≠ 120 then
    Proc.raise (.failed s!"{helper.tag} Internal error - Failed to generate a strong domain password")
  else do
    let _ ← Proc.liftExcept (getLdapComputersBase env)
    let result ← invokeShell env (.presetComputer domainControllerIp otp)
    if result.returncode ≠ 0 then
      Proc.raise (.failed (helper.tag ++ " failed to preset-computer. details: " ++
        helper.resultText env (.presetComputer domainControllerIp otp) result))
    else return otp

def createAdAutomationEntry (entry : AutomationEntry) : Proc PresetState PresetExc PUnit :=
  if isEmpty helper.instanceId then Proc.raise (.other "instance_id is required")
  else if isEmpty helper.nonce then Proc.raise (.other "nonce is required")
  else Proc.modify fun s => { s with entries := s.entries.putItem (helper.instanceId, helper.nonce) entry }

/-- The entry of an account that was created. -/
def successEntry (otp domainControllerIp : String) : AutomationEntry where
  hostname := helper.hostname
  status := .success
  otp := some otp
  domainController := some domainControllerIp
  errorCode := none
  message := none
  nodeType := helper.ec2Instance.socaNodeType
  moduleId := helper.ec2Instance.ideaModuleId
  ttl := env.currentTimeMs + env.entryTtlSeconds * 60 * 1000
  createdOn := env.currentTimeMs
  updatedOn := env.currentTimeMs

/-- The entry of a request that failed. -/
def failEntry (message : String) : AutomationEntry where
  hostname := helper.hostname
  status := .fail
  otp := none
  domainController := none
  errorCode := some "AD_AUTOMATION_PRESET_COMPUTER_FAILED"
  message := some message
  nodeType := helper.ec2Instance.socaNodeType
  moduleId := helper.ec2Instance.ideaModuleId
  ttl := env.currentTimeMs + env.entryTtlSeconds * 60 * 1000
  createdOn := env.currentTimeMs
  updatedOn := env.currentTimeMs

/-- The `except` of `invoke`: a failure is recorded, and the exception is raised in all cases. -/
def recordFailure (e : PresetExc) : Proc PresetState PresetExc PUnit :=
  match e with
  | .failed message => do
    helper.createAdAutomationEntry (helper.failEntry env message)
    Proc.raise (.failed message)
  | e => Proc.raise e

/-- The `except` around `preset_computer`: the account is deleted and `invoke` is called `again`, or it is a retry. -/
def handleRefusal (again : Proc PresetState PresetExc PUnit) (domainControllerIp : String) (e : PresetExc) :
    Proc PresetState PresetExc (Option String) :=
  match e with
  | .failed message =>
    -- the directory answers this to valid requests too
    if contains "Cannot set computer password: Authentication error" message then do
      helper.deleteComputer env domainControllerIp
      again
      return none
    else Proc.raise (.retry message)
  | e => Proc.raise e

/-- The `try` of `invoke` on a domain controller. -/
def attemptOn (again : Proc PresetState PresetExc PUnit) (domainControllerIp : String) :
    Proc PresetState PresetExc PUnit := do
  let existing ← helper.isExistingComputerAccount env
  Proc.when (existing = true) (helper.deleteComputer env domainControllerIp)
  let oneTimePassword ← Proc.tryCatch
    (helper.presetComputer env domainControllerIp >>= fun otp => pure (some otp))
    (helper.handleRefusal env again domainControllerIp)
  match oneTimePassword with
  | none => pure ⟨⟩
  | some otp => helper.createAdAutomationEntry (helper.successEntry env otp domainControllerIp)

/-- `invoke()`, with the domain controllers that are left. -/
def invoke : List String → Proc PresetState PresetExc PUnit
  | [] => Proc.raise (.retry (helper.tag ++ " all existing AD domain controllers have been tried to create " ++
      "computer account, but failed. request will be retried."))
  | domainControllerIp :: domainControllerIps =>
    Proc.tryCatch (attemptOn env helper (invoke domainControllerIps) domainControllerIp) fun e =>
      recordFailure env helper e

end PresetComputeHelper

/-! ## The agent -/

/-- The namespaces of the agent. -/
def adAutomationNamespaces : List String :=
  ["ADAutomation.PresetComputer", "ADAutomation.UpdateComputerDescription", "ADAutomation.DeleteComputer"]

/-- The request of a message is processed. -/
def processRequest (message : QueueMessage) : Proc PresetState PresetExc PUnit :=
  if getAsString message.nameSpace = some "ADAutomation.PresetComputer" then do
    let (helper, domainControllerIps) ← newHelper env message
    helper.invoke env domainControllerIps
  else pure ⟨⟩

/-- One message in `automation_loop`: whether it is deleted from the queue. -/
def handleMessage (message : QueueMessage) : Proc PresetState PresetExc Bool :=
  Proc.tryCatch
    (if ∀ known ∈ adAutomationNamespaces, getAsString message.nameSpace ≠ some known then pure true
      else Proc.tryCatch (processRequest env message >>= fun _ => pure true) fun e => match e with
        | .failed _ => pure true
        | .retry _ => pure false
        | .other message => Proc.raise (.other message))
    fun _ => pure false

/-! ## What a request promises -/

/-- The domain controllers that the first discovery of a log has found, if it has found any. -/
def discovered (log : Log) : Option (List String) :=
  log.findSome? fun run => match run.1 with
    | .info => (parseDomainControllers env "" run.2.stdout).toOption
    | _ => none

/-- The domain controllers that were found. -/
def domainControllers (log : Log) : List String := (discovered env log).getD []

/-- **A request ends in one recorded outcome**: the domain controllers are tried in order, each once at most; and either
the message stays and no entry is written, or it is deleted, and the entry of the instance and the nonce says that the
request failed or has the one-time password that was accepted last. -/
def JoinMeets (entries : Table (String × String) AutomationEntry) (message : QueueMessage)
    (instanceId nonce : String) : Prop :=
  ∃ deleted t, (handleMessage env message).run ⟨[], entries⟩ = (.ok deleted, t) ∧
    attempts t.log <+: domainControllers env t.log ∧
    ((deleted = false ∧ t.entries = entries) ∨
      (deleted = true ∧ ∃ entry, t.entries.getItem (instanceId, nonce) = some entry ∧ (entry.status = .fail ∨
          (entry.status = .success ∧ ∃ otp, entry.otp = some otp ∧ lastAccepted t.log = some otp))))

/-- A request to join of a running instance, with a nonce. -/
structure JoinRequest (message : QueueMessage) (instanceId nonce : String) : Prop where
  nameSpace : getAsString message.nameSpace = some "ADAutomation.PresetComputer"
  sender : ∃ senderId roleId, getAsString message.senderId = some senderId ∧
    splitChar ':' senderId = [roleId, instanceId]
  running : ∃ ec2Instance others, env.describeInstances instanceId = .ok (ec2Instance :: others)
  nonce : getAsString message.nonce = some nonce

/-- The constructor comes to a prefix that leaves less than four characters. -/
structure PrefixTooLong (message : QueueMessage) : Prop where
  configured : env.awsAccount ≠ none ∧ env.clusterName ≠ none ∧ env.awsRegion ≠ none
  hostname : getAsString message.hostname = none
  long : 11 < (prefixOf env).length

/-! ### The log -/

theorem attempts_append (log log' : Log) : attempts (log ++ log') = attempts log ++ attempts log' :=
  List.filterMap_append

theorem lastAccepted_append_accepted (log : Log) (domainControllerIp otp : String) {result : CommandResult}
    (h : result.returncode = 0) :
    lastAccepted (log ++ [(.presetComputer domainControllerIp otp, result)]) = some otp := by
  unfold lastAccepted
  rw [List.filterMap_append]
  simp [h]

theorem length_oneTimePassword (log : Log) : (PresetComputeHelper.oneTimePassword env log).length = 120 := by
  simp [PresetComputeHelper.oneTimePassword]

/-- The log has grown by commands with these attempts. -/
def Ran (s t : PresetState) (xs : List String) : Prop := ∃ ext, t.log = s.log ++ ext ∧ attempts ext = xs

theorem Ran.refl (s : PresetState) : Ran s s [] := ⟨[], (List.append_nil _).symm, rfl⟩

theorem Ran.trans {s t u : PresetState} {xs ys : List String} (h : Ran s t xs) (h' : Ran t u ys) :
    Ran s u (xs ++ ys) := by
  obtain ⟨ext, hlog, rfl⟩ := h
  obtain ⟨ext', hlog', rfl⟩ := h'
  exact ⟨ext ++ ext', by rw [hlog', hlog, List.append_assoc], attempts_append ext ext'⟩

theorem Ran.attempts {s t : PresetState} {xs : List String} (h : Ran s t xs) :
    attempts t.log = attempts s.log ++ xs := by
  obtain ⟨ext, hlog, rfl⟩ := h
  rw [hlog, attempts_append]

theorem Ran.discovered {s t : PresetState} {xs dcs : List String} (h : Ran s t xs)
    (hfound : discovered env s.log = some dcs) : discovered env t.log = some dcs := by
  obtain ⟨ext, hlog, -⟩ := h
  unfold PresetComputer.discovered at hfound ⊢
  rw [hlog, List.findSome?_append, hfound]
  rfl

/-! ### One command -/

namespace PresetComputeHelper

variable {env} {helper : PresetComputeHelper} {s : PresetState}

theorem run_isExistingComputerAccount (env : PresetEnv) (helper : PresetComputeHelper) (s : PresetState) :
    (∃ m, (helper.isExistingComputerAccount env).run s = (.error (.other m), s)) ∨
      ∃ b, (helper.isExistingComputerAccount env).run s = (.ok b, s) := by
  unfold isExistingComputerAccount getLdapComputersBase
  cases env.computersOu with
  | none => exact .inl ⟨_, rfl⟩
  | some ou =>
    dsimp only
    rw [Proc.run_bind_of_ok (Proc.run_liftExcept _ s), Proc.run_bind_of_ok (Proc.run_gets id s)]
    simp only [id]
    split
    · exact .inl ⟨_, rfl⟩
    · exact .inr ⟨_, rfl⟩

/-- A deletion is logged, and it fails or not. -/
theorem run_deleteComputer (env : PresetEnv) (helper : PresetComputeHelper) (domainControllerIp : String)
    (s : PresetState) : ∃ t, Ran s t [] ∧ t.entries = s.entries ∧
      ((helper.deleteComputer env domainControllerIp).run s = (.ok ⟨⟩, t) ∨
        ∃ m, (helper.deleteComputer env domainControllerIp).run s = (.error (.failed m), t)) := by
  let result := env.adcli s.log (.deleteComputer domainControllerIp)
  refine ⟨{ s with log := s.log ++ [(.deleteComputer domainControllerIp, result)] }, ⟨_, rfl, rfl⟩, rfl, ?_⟩
  by_cases h : result.returncode ≠ 0
  · refine .inr ⟨helper.tag ++ " failed to delete existing computer account: " ++
      helper.resultText env (.deleteComputer domainControllerIp) result, ?_⟩
    show (if result.returncode ≠ 0 then Proc.raise _ else pure ⟨⟩ : Proc PresetState PresetExc PUnit).run _ = _
    rw [if_pos h]
    rfl
  · refine .inl ?_
    show (if result.returncode ≠ 0 then Proc.raise _ else pure ⟨⟩ : Proc PresetState PresetExc PUnit).run _ = _
    rw [if_neg h]
    rfl

/-- An attempt is logged; when it is accepted its password is the last one that was. -/
theorem run_presetComputer (env : PresetEnv) (helper : PresetComputeHelper) (domainControllerIp : String)
    (s : PresetState) : (∃ m, (helper.presetComputer env domainControllerIp).run s = (.error (.other m), s)) ∨
      ∃ t, Ran s t [domainControllerIp] ∧ t.entries = s.entries ∧
        ((∃ otp, (helper.presetComputer env domainControllerIp).run s = (.ok otp, t) ∧ lastAccepted t.log = some otp) ∨
          ∃ m, (helper.presetComputer env domainControllerIp).run s = (.error (.failed m), t)) := by
  have hlength : ¬ (oneTimePassword env s.log).length ≠ 120 := not_not.mpr (length_oneTimePassword env s.log)
  unfold presetComputer getLdapComputersBase
  rw [Proc.run_bind_of_ok (Proc.run_gets id s)]
  simp only [id]
  rw [if_neg hlength]
  cases env.computersOu with
  | none => exact .inl ⟨_, rfl⟩
  | some ou =>
    dsimp only
    rw [Proc.run_bind_of_ok (Proc.run_liftExcept _ s)]
    let otp := oneTimePassword env s.log
    let result := env.adcli s.log (.presetComputer domainControllerIp otp)
    let t : PresetState := { s with log := s.log ++ [(.presetComputer domainControllerIp otp, result)] }
    have hshell : (invokeShell env (.presetComputer domainControllerIp otp)).run s = (.ok result, t) := rfl
    refine .inr ⟨t, ⟨_, rfl, rfl⟩, rfl, ?_⟩
    rw [Proc.run_bind_of_ok hshell]
    by_cases h : result.returncode ≠ 0
    · rw [if_pos h]
      exact .inr ⟨_, rfl⟩
    · rw [if_neg h]
      exact .inl ⟨otp, rfl, lastAccepted_append_accepted s.log domainControllerIp otp (not_not.mp h)⟩

/-- The key of an entry has both parts. -/
def Writes (helper : PresetComputeHelper) : Prop := isEmpty helper.instanceId = false ∧ isEmpty helper.nonce = false

/-- An entry is written when its key has both parts. -/
theorem run_createAdAutomationEntry (helper : PresetComputeHelper) (entry : AutomationEntry) (s : PresetState) :
    (helper.Writes ∧ (helper.createAdAutomationEntry entry).run s =
        (.ok ⟨⟩, { s with entries := s.entries.putItem (helper.instanceId, helper.nonce) entry })) ∨
      (¬ helper.Writes ∧ ∃ m, (helper.createAdAutomationEntry entry).run s = (.error (.other m), s)) := by
  unfold createAdAutomationEntry Writes
  cases hinstance : isEmpty helper.instanceId with
  | true => exact .inr ⟨(fun h => nomatch h.1), _, rfl⟩
  | false =>
    cases hnonce : isEmpty helper.nonce with
    | true => exact .inr ⟨(fun h => nomatch h.2), _, rfl⟩
    | false => exact .inl ⟨⟨rfl, rfl⟩, rfl⟩

/-! ### The attempts -/

/-- The entry of the helper in a table. -/
def entryIn (helper : PresetComputeHelper) (t : PresetState) : Option AutomationEntry :=
  t.entries.getItem (helper.instanceId, helper.nonce)

/-- The account was created, and its entry has the password. -/
def Succeeded (helper : PresetComputeHelper) (t : PresetState) : Prop :=
  ∃ entry otp, helper.entryIn t = some entry ∧ entry.status = .success ∧ entry.otp = some otp ∧
    lastAccepted t.log = some otp

/-- There is an entry that says that the request failed. -/
def Failed (helper : PresetComputeHelper) (t : PresetState) : Prop :=
  helper.Writes ∧ ∃ entry, helper.entryIn t = some entry ∧ entry.status = .fail

/-- The outcome of attempts on domain controllers. -/
structure Outcome (helper : PresetComputeHelper) (s : PresetState) (dcs : List String) (r : Except PresetExc PUnit.{1})
    (t : PresetState) : Prop where
  ran : ∃ xs, Ran s t xs ∧ xs <+: dcs
  result : (r = .ok ⟨⟩ ∧ helper.Succeeded t) ∨ (∃ m, r = .error (.failed m) ∧ helper.Failed t) ∨
    ∃ e, r = .error e ∧ (∀ m, e ≠ .failed m) ∧ t.entries = s.entries

/-- The outcome before a failure is recorded. -/
structure Attempted (helper : PresetComputeHelper) (s : PresetState) (dcs : List String)
    (r : Except PresetExc PUnit.{1})
    (t : PresetState) : Prop where
  ran : ∃ xs, Ran s t xs ∧ xs <+: dcs
  result : (r = .ok ⟨⟩ ∧ helper.Succeeded t) ∨
    (∃ m, r = .error (.failed m) ∧ (t.entries = s.entries ∨ helper.Writes)) ∨
    ∃ e, r = .error e ∧ (∀ m, e ≠ .failed m) ∧ t.entries = s.entries

variable {dcs : List String} {r : Except PresetExc PUnit.{1}} {t : PresetState}

theorem Outcome.attempted (h : helper.Outcome s dcs r t) : helper.Attempted s dcs r t := by
  refine ⟨h.ran, ?_⟩
  rcases h.result with hok | ⟨m, hm, hfailed⟩ | hother
  · exact .inl hok
  · exact .inr (.inl ⟨m, hm, .inr hfailed.1⟩)
  · exact .inr (.inr hother)

/-- **The record of a failure.** -/
theorem Attempted.record
    {c : Proc PresetState PresetExc PUnit} (h : helper.Attempted s dcs r t) (hrun : c.run s = (r, t)) :
    ∃ r' t', (Proc.tryCatch c fun e => helper.recordFailure env e).run s = (r', t') ∧ helper.Outcome s dcs r' t' := by
  rw [Proc.run_tryCatch, hrun]
  rcases h.result with ⟨rfl, hsucceeded⟩ | ⟨m, rfl, hentries⟩ | ⟨e, rfl, he, hentries⟩
  · exact ⟨_, t, rfl, h.ran, .inl ⟨rfl, hsucceeded⟩⟩
  · dsimp only
    unfold recordFailure
    dsimp only
    rcases run_createAdAutomationEntry helper (helper.failEntry env m) t with
      ⟨hwrites, hput⟩ | ⟨hnot, m', hrefused⟩
    · rw [Proc.run_bind_of_ok hput]
      exact ⟨_, _, rfl, h.ran, .inr (.inl ⟨m, rfl, hwrites, _, Table.getItem_putItem_self _ _ _, rfl⟩)⟩
    · rw [Proc.run_bind_of_error hrefused]
      exact ⟨_, t, rfl, h.ran, .inr (.inr ⟨_, rfl, (fun m h => nomatch h), hentries.resolve_right hnot⟩)⟩
  · dsimp only
    have hraise : helper.recordFailure env e = Proc.raise e := by
      cases e with
      | failed m => exact absurd rfl (he m)
      | retry m => rfl
      | other m => rfl
    rw [hraise]
    exact ⟨_, t, rfl, h.ran, .inr (.inr ⟨e, rfl, he, hentries⟩)⟩

/-- A part of an attempt that adds to what was run before. -/
theorem Attempted.of_ran {t u : PresetState}
    (h : helper.Attempted t dcs r u) {xs : List String} (hran : Ran s t xs) (hentries : t.entries = s.entries) :
    helper.Attempted s (xs ++ dcs) r u := by
  obtain ⟨⟨ys, hran', hprefix⟩, hresult⟩ := h
  refine ⟨⟨xs ++ ys, hran.trans hran', (List.prefix_append_right_inj xs).mpr hprefix⟩, ?_⟩
  rwa [← hentries]

/-- An attempt that does not come to its end, and has written nothing. -/
theorem Attempted.of_error {xs dcs : List String} {e : PresetExc} (hran : Ran s t xs)
    ( hprefix : xs <+: dcs) (hentries : t.entries = s.entries) : helper.Attempted s dcs (.error e) t := by
  refine ⟨⟨xs, hran, hprefix⟩, ?_⟩
  cases e with
  | failed m => exact .inr (.inl ⟨m, rfl, .inl hentries⟩)
  | retry m => exact .inr (.inr ⟨_, rfl, (fun m h => nomatch h), hentries⟩)
  | other m => exact .inr (.inr ⟨_, rfl, (fun m h => nomatch h), hentries⟩)

variable {again : Proc PresetState PresetExc PUnit}

/-- A refusal of the right kind is followed by the other domain controllers. -/
theorem attempted_handleRefusal
    (hagain : ∀ s, ∃ r t, again.run s = (r, t) ∧ helper.Outcome s dcs r t) (domainControllerIp m : String)
    (s : PresetState) :
    ∃ r t, (helper.handleRefusal env again domainControllerIp (.failed m)).run s = (r.map fun _ => none, t) ∧
      helper.Attempted s dcs r t := by
  unfold handleRefusal
  dsimp only
  split
  · obtain ⟨t, hran, hentries, hdeleted | ⟨m', hfailed⟩⟩ :=
      run_deleteComputer env helper domainControllerIp s
    · obtain ⟨r, u, hrun, houtcome⟩ := hagain t
      refine ⟨r, u, ?_, houtcome.attempted.of_ran hran hentries⟩
      rw [Proc.run_bind_of_ok hdeleted, Proc.run_bind, hrun]
      cases r with
      | error e => rfl
      | ok x => rfl
    · exact ⟨.error (.failed m'), t, Proc.run_bind_of_error hfailed, .of_error hran List.nil_prefix hentries⟩
  · exact ⟨.error (.retry m), s, rfl, .of_error (.refl s) List.nil_prefix rfl⟩

/-- **The end of an attempt**: the command, the other domain controllers after a refusal, and the entry. -/
theorem attempted_preset
    (hagain : ∀ s, ∃ r t, again.run s = (r, t) ∧ helper.Outcome s dcs r t) (domainControllerIp : String)
    (s : PresetState) :
    ∃ r t, (Proc.tryCatch (helper.presetComputer env domainControllerIp >>= fun otp => pure (some otp))
        (helper.handleRefusal env again domainControllerIp) >>= fun oneTimePassword => match oneTimePassword with
          | none => pure ⟨⟩
          | some otp => helper.createAdAutomationEntry (helper.successEntry env otp domainControllerIp)).run s =
        (r, t) ∧ helper.Attempted s (domainControllerIp :: dcs) r t := by
  rcases run_presetComputer env helper domainControllerIp s with
    ⟨m, hother⟩ | ⟨t, hran, hentries, ⟨otp, haccepted, hlast⟩ | ⟨m, hrefused⟩⟩
  · refine ⟨.error (.other m), s, ?_, .of_error (.refl s) List.nil_prefix rfl⟩
    refine Proc.run_bind_of_error ?_
    rw [Proc.run_tryCatch, Proc.run_bind_of_error hother]
    rfl
  · have hsome : (Proc.tryCatch (helper.presetComputer env domainControllerIp >>= fun otp => pure (some otp))
        (helper.handleRefusal env again domainControllerIp)).run s = (.ok (some otp), t) := by
      rw [Proc.run_tryCatch, Proc.run_bind_of_ok haccepted]
      rfl
    rw [Proc.run_bind_of_ok hsome]
    rcases run_createAdAutomationEntry helper (helper.successEntry env otp domainControllerIp) t with
      ⟨-, hput⟩ | ⟨-, m, hnot⟩
    · refine ⟨_, _, hput, ⟨[domainControllerIp], hran, List.prefix_append [_] dcs⟩, .inl ⟨rfl, ?_⟩⟩
      exact ⟨_, otp, Table.getItem_putItem_self _ _ _, rfl, rfl, hlast⟩
    · exact ⟨_, t, hnot, .of_error hran (List.prefix_append [_] dcs) hentries⟩
  · have hhandler : (Proc.tryCatch (helper.presetComputer env domainControllerIp >>= fun otp => pure (some otp))
        (helper.handleRefusal env again domainControllerIp)).run s =
          (helper.handleRefusal env again domainControllerIp (.failed m)).run t := by
      rw [Proc.run_tryCatch, Proc.run_bind_of_error hrefused]
    obtain ⟨r, u, hrun, hattempted⟩ := attempted_handleRefusal hagain domainControllerIp m t
    refine ⟨r, u, ?_, hattempted.of_ran hran hentries⟩
    rw [Proc.run_bind, hhandler, hrun]
    cases r with
    | error e => rfl
    | ok x => rfl

/-- **An attempt** on a domain controller, where the other ones are tried `again`. -/
theorem attempted_attemptOn
    (hagain : ∀ s, ∃ r t, again.run s = (r, t) ∧ helper.Outcome s dcs r t) (domainControllerIp : String)
    (s : PresetState) : ∃ r t, (helper.attemptOn env again domainControllerIp).run s = (r, t) ∧
      helper.Attempted s (domainControllerIp :: dcs) r t := by
  unfold attemptOn
  rcases run_isExistingComputerAccount env helper s with ⟨m, hother⟩ | ⟨existing, hexisting⟩
  · exact ⟨_, s, Proc.run_bind_of_error hother, .of_error (.refl s) List.nil_prefix rfl⟩
  · rw [Proc.run_bind_of_ok hexisting]
    cases existing with
    | false =>
      rw [Proc.run_bind_of_ok (Proc.run_when_neg Bool.false_ne_true s)]
      exact attempted_preset hagain domainControllerIp s
    | true =>
      obtain ⟨t, hran, hentries, hdeleted | ⟨m, hfailed⟩⟩ := run_deleteComputer env helper domainControllerIp s
      · rw [Proc.run_bind_of_ok ((Proc.run_when_pos rfl s).trans hdeleted)]
        obtain ⟨r, u, hrun, hattempted⟩ := attempted_preset hagain domainControllerIp t
        exact ⟨r, u, hrun, hattempted.of_ran hran hentries⟩
      · rw [Proc.run_bind_of_error ((Proc.run_when_pos rfl s).trans hfailed)]
        exact ⟨_, t, rfl, .of_error hran List.nil_prefix hentries⟩

/-- **All attempts**: they stop after the last domain controller at the latest, and have one outcome. -/
theorem outcome_invoke (dcs : List String) (s : PresetState) :
    ∃ r t, (helper.invoke env dcs).run s = (r, t) ∧ helper.Outcome s dcs r t := by
  induction dcs generalizing s with
  | nil =>
    exact ⟨_, s, rfl, ⟨[], .refl s, List.nil_prefix⟩, .inr (.inr ⟨_, rfl, (fun m h => nomatch h), rfl⟩)⟩
  | cons domainControllerIp dcs ih =>
    obtain ⟨r, t, hrun, hattempted⟩ := attempted_attemptOn ih domainControllerIp s
    exact hattempted.record hrun

end PresetComputeHelper

/-! ### The constructor -/

section Constructor

variable {env} {message : QueueMessage} {instanceId nonce : String} {s : PresetState}

/-- The tag is in the errors only. -/
theorem toOption_parseDomainControllers (env : PresetEnv) (tag tag' stdout : String) :
    (parseDomainControllers env tag stdout).toOption = (parseDomainControllers env tag' stdout).toOption := by
  unfold parseDomainControllers
  dsimp only
  cases getAsString ((domainQuery stdout).getItem "domain-name") with
  | none => rfl
  | some domainName =>
    dsimp only
    by_cases hname : env.upper domainName ≠ env.upper env.domainName
    · rw [if_pos hname, if_pos hname]
      rfl
    · rw [if_neg hname, if_neg hname]
      cases getAsString ((domainQuery stdout).getItem "domain-short") with
      | none => rfl
      | some shortname =>
        dsimp only
        split
        · rfl
        · split <;> rfl

/-- The discovery never fails for good. -/
theorem parseDomainControllers_ne_failed (env : PresetEnv) (tag stdout m : String) :
    parseDomainControllers env tag stdout ≠ .error (.failed m) := by
  unfold parseDomainControllers
  intro h
  dsimp only at h
  split at h
  · cases Except.error.inj h
  · split at h
    · cases Except.error.inj h
    · split at h
      · cases Except.error.inj h
      · split at h
        · cases Except.error.inj h
        · split at h
          · cases Except.error.inj h
          · cases h

/-- **The discovery**: domain controllers, or an exception that is no failure. -/
theorem run_getDomainControllerIpAddresses (env : PresetEnv) (tag : String) {s : PresetState}
    (hlog : discovered env s.log = none) : ∃ t, Ran s t [] ∧ t.entries = s.entries ∧
      ((∃ e, (getDomainControllerIpAddresses env tag).run s = (.error e, t) ∧ ∀ m, e ≠ .failed m) ∨
        ∃ dcs, (getDomainControllerIpAddresses env tag).run s = (.ok dcs, t) ∧ discovered env t.log = some dcs) := by
  let result := env.adcli s.log .info
  let t : PresetState := { s with log := s.log ++ [(.info, result)] }
  have hshell : (invokeShell env .info).run s = (.ok result, t) := rfl
  refine ⟨t, ⟨_, rfl, rfl⟩, rfl, ?_⟩
  unfold getDomainControllerIpAddresses
  rw [Proc.run_bind_of_ok hshell]
  split
  · exact .inl ⟨_, rfl, fun m h => nomatch h⟩
  · rw [Proc.run_liftExcept]
    cases hparse : parseDomainControllers env tag result.stdout with
    | error e => exact .inl ⟨e, rfl, fun m h => parseDomainControllers_ne_failed env tag result.stdout m (h ▸ hparse)⟩
    | ok dcs =>
      refine .inr ⟨dcs, rfl, ?_⟩
      have hfound : (parseDomainControllers env "" result.stdout).toOption = some dcs := by
        rw [toOption_parseDomainControllers env "" tag, hparse]
        rfl
      unfold discovered at hlog ⊢
      rw [List.findSome?_append, hlog, Option.none_or]
      simp [hfound]

/-- A generated hostname fits unless the prefix is too long. -/
theorem hostnameFor_cases (env : PresetEnv) (awsRegion awsAccount clusterName instanceId nonce : String)
    (hostname : Option String) : ((getAsString hostname = none ∧ 11 < (prefixOf env).length) ∧
        ∃ m, hostnameFor env awsRegion awsAccount clusterName instanceId nonce hostname = .error (.failed m)) ∨
      (¬ (getAsString hostname = none ∧ 11 < (prefixOf env).length) ∧
        ∃ name, hostnameFor env awsRegion awsAccount clusterName instanceId nonce hostname = .ok name) := by
  unfold hostnameFor
  cases getAsString hostname with
  | some name => exact .inr ⟨(fun h => nomatch h.1), name, rfl⟩
  | none =>
    dsimp only
    by_cases hlong : 11 < (prefixOf env).length
    · rw [if_pos (by omega)]
      exact .inl ⟨⟨rfl, hlong⟩, _, rfl⟩
    · rw [if_neg (by omega)]
      exact .inr ⟨fun h => hlong h.2, _, rfl⟩

/-- The sender of a request to join is its instance. -/
theorem verifySender_of_request (h : JoinRequest env message instanceId nonce) :
    ∃ senderId ec2Instance, getAsString message.senderId = some senderId ∧
      verifySender env senderId = .ok (instanceId, ec2Instance) := by
  obtain ⟨senderId, roleId, hsender, hsplit⟩ := h.sender
  obtain ⟨ec2Instance, others, hrunning⟩ := h.running
  refine ⟨senderId, ec2Instance, hsender, ?_⟩
  unfold verifySender
  rw [hsplit]
  dsimp only
  rw [hrunning]

/-- **The constructor** on a request to join: it fails for good only when the prefix is too long; otherwise there is a
helper for the instance and the nonce, or another exception. -/
theorem newHelper_cases (h : JoinRequest env message instanceId nonce)
    (entries : Table (String × String) AutomationEntry) :
    (PrefixTooLong env message ∧ ∃ m, (newHelper env message).run ⟨[], entries⟩ = (.error (.failed m), ⟨[], entries⟩)) ∨
      (¬ PrefixTooLong env message ∧ ∃ t, Ran ⟨[], entries⟩ t [] ∧ t.entries = entries ∧
        ((∃ e, (newHelper env message).run ⟨[], entries⟩ = (.error e, t) ∧ ∀ m, e ≠ .failed m) ∨
          ∃ helper dcs, (newHelper env message).run ⟨[], entries⟩ = (.ok (helper, dcs), t) ∧
            helper.instanceId = instanceId ∧ helper.nonce = nonce ∧ discovered env t.log = some dcs)) := by
  let s : PresetState := ⟨[], entries⟩
  unfold newHelper
  -- a setting that is missing ends the constructor
  cases haccount : env.awsAccount with
  | none =>
    exact .inr ⟨fun hlong => hlong.configured.1 haccount, s, .refl s, rfl,
      .inl ⟨_, Proc.run_bind_of_error rfl, fun m h => nomatch h⟩⟩
  | some awsAccount =>
  rw [Proc.run_bind_of_ok (show (getRequired "cluster.aws.account_id" (some awsAccount)).run s = _ from rfl)]
  cases hcluster : env.clusterName with
  | none =>
    exact .inr ⟨fun hlong => hlong.configured.2.1 hcluster, s, .refl s, rfl,
      .inl ⟨_, Proc.run_bind_of_error rfl, fun m h => nomatch h⟩⟩
  | some clusterName =>
  rw [Proc.run_bind_of_ok (show (getRequired "cluster.cluster_name" (some clusterName)).run s = _ from rfl)]
  cases hregion : env.awsRegion with
  | none =>
    exact .inr ⟨fun hlong => hlong.configured.2.2 hregion, s, .refl s, rfl,
      .inl ⟨_, Proc.run_bind_of_error rfl, fun m h => nomatch h⟩⟩
  | some awsRegion =>
  rw [Proc.run_bind_of_ok (show (getRequired "cluster.aws.region" (some awsRegion)).run s = _ from rfl)]
  obtain ⟨senderId, ec2Instance, hsender, hverify⟩ := verifySender_of_request h
  rw [hsender, h.nonce]
  dsimp only
  rw [hverify, Proc.run_bind_of_ok (Proc.run_liftExcept _ s)]
  dsimp only
  rcases hostnameFor_cases env awsRegion awsAccount clusterName instanceId nonce message.hostname with
    ⟨hlong, m, hfailed⟩ | ⟨hfits, hostname, hhostname⟩
  · rw [hfailed]
    refine .inl ⟨⟨⟨?_, ?_, ?_⟩, hlong.1, hlong.2⟩, m, rfl⟩
    · exact fun hnone => nomatch haccount.symm.trans hnone
    · exact fun hnone => nomatch hcluster.symm.trans hnone
    · exact fun hnone => nomatch hregion.symm.trans hnone
  · rw [hhostname, Proc.run_bind_of_ok (Proc.run_liftExcept _ s)]
    refine .inr ⟨fun hlong => hfits ⟨hlong.hostname, hlong.long⟩, ?_⟩
    let which := env.adcli [] .commandV
    let t : PresetState := ⟨[(.commandV, which)], entries⟩
    have hshell : (invokeShell env .commandV).run s = (.ok which, t) := rfl
    have hran : Ran s t [] := ⟨_, rfl, rfl⟩
    rw [Proc.run_bind_of_ok hshell]
    split
    · exact ⟨t, hran, rfl, .inl ⟨_, rfl, fun m h => nomatch h⟩⟩
    · obtain ⟨u, hran', hentries, ⟨e, herror, he⟩ | ⟨dcs, hdcs, hfound⟩⟩ :=
        run_getDomainControllerIpAddresses env (logTag (some hostname) instanceId nonce) (s := t) rfl
      · exact ⟨u, hran.trans hran', hentries, .inl ⟨e, Proc.run_bind_of_error herror, he⟩⟩
      · rw [Proc.run_bind_of_ok hdcs]
        exact ⟨u, hran.trans hran', hentries, .inr ⟨_, dcs, rfl, rfl, rfl, hfound⟩⟩

end Constructor

/-! ### The agent -/

section Agent

variable {env} {message : QueueMessage} {instanceId nonce : String} {s t : PresetState}

/-- The message of a request with this outcome is deleted. -/
def deletesMessage : Except PresetExc PUnit.{1} → Bool
  | .ok _ => true
  | .error (.failed _) => true
  | .error _ => false

/-- The agent deletes the message of a request that succeeded or failed for good, and no other one. -/
theorem run_handleMessage (hname : getAsString message.nameSpace = some "ADAutomation.PresetComputer")
    {r : Except PresetExc PUnit.{1}} (hrun : (processRequest env message).run s = (r, t)) :
    (handleMessage env message).run s = (.ok (deletesMessage r), t) := by
  have hknown : ¬ ∀ known ∈ adAutomationNamespaces, getAsString message.nameSpace ≠ some known :=
    fun h => h _ List.mem_cons_self hname
  unfold handleMessage
  rw [if_neg hknown, Proc.run_tryCatch, Proc.run_tryCatch, Proc.run_bind, hrun]
  cases r with
  | ok x => rfl
  | error e => cases e <;> rfl

theorem processRequest_eq (hname : getAsString message.nameSpace = some "ADAutomation.PresetComputer") :
    processRequest env message = newHelper env message >>= fun found => found.1.invoke env found.2 := by
  unfold processRequest
  rw [if_pos hname]

/-- The entries of a request that fails in the constructor. -/
def OldFailure (entries : Table (String × String) AutomationEntry) (instanceId nonce : String) : Prop :=
  ∃ entry, entries.getItem (instanceId, nonce) = some entry ∧ entry.status = .fail

/-- **When a request ends in one recorded outcome**: the prefix of generated hostnames is not too long, or there was
an entry of a failure before. -/
theorem joinMeets_iff (h : JoinRequest env message instanceId nonce)
    (entries : Table (String × String) AutomationEntry) : JoinMeets env entries message instanceId nonce ↔
      (PrefixTooLong env message → OldFailure entries instanceId nonce) := by
  have hprocess : processRequest env message = newHelper env message >>= fun found => found.1.invoke env found.2 :=
    processRequest_eq h.nameSpace
  rcases newHelper_cases h entries with ⟨hlong, m, hfailed⟩ | ⟨hfits, t, hran, hentries, hcases⟩
  · -- the constructor fails, and the message is deleted
    have hrun : (processRequest env message).run ⟨[], entries⟩ = (.error (.failed m), ⟨[], entries⟩) := by
      rw [hprocess]
      exact Proc.run_bind_of_error hfailed
    have hagent := run_handleMessage h.nameSpace hrun
    constructor
    · rintro ⟨deleted, t, hdeleted, -, hresult⟩ -
      rw [hagent, Prod.mk.injEq] at hdeleted
      obtain ⟨hdeleted, rfl⟩ := hdeleted
      rcases hresult with ⟨hfalse, -⟩ | ⟨-, entry, hentry, hfail | ⟨-, otp, -, hlast⟩⟩
      · rw [hfalse] at hdeleted
        exact nomatch Except.ok.inj hdeleted
      · exact ⟨entry, hentry, hfail⟩
      · exact nomatch hlast
    · intro hold
      obtain ⟨entry, hentry, hfail⟩ := hold hlong
      exact ⟨true, ⟨[], entries⟩, hagent, List.nil_prefix, .inr ⟨rfl, entry, hentry, .inl hfail⟩⟩
  · refine iff_of_true ?_ fun hlong => absurd hlong hfits
    rcases hcases with ⟨e, herror, he⟩ | ⟨helper, dcs, hok, rfl, rfl, hfound⟩
    · have hrun : (processRequest env message).run ⟨[], entries⟩ = (.error e, t) := by
        rw [hprocess]
        exact Proc.run_bind_of_error herror
      refine ⟨false, t, ?_, ?_, .inl ⟨rfl, hentries⟩⟩
      · rw [run_handleMessage h.nameSpace hrun]
        cases e with
        | failed m => exact absurd rfl (he m)
        | retry m => rfl
        | other m => rfl
      · rw [hran.attempts]
        exact List.nil_prefix
    · have houtcome : ∃ r u, (helper.invoke env dcs).run t = (r, u) ∧ helper.Outcome t dcs r u :=
        PresetComputeHelper.outcome_invoke dcs t
      obtain ⟨r, u, hinvoke, ⟨xs, hran', hprefix⟩, hresult⟩ := houtcome
      have hrun : (processRequest env message).run ⟨[], entries⟩ = (r, u) := by
        rw [hprocess, Proc.run_bind_of_ok hok]
        exact hinvoke
      have hattempts : attempts u.log <+: domainControllers env u.log := by
        unfold domainControllers
        rw [hran'.discovered env hfound, hran'.attempts, hran.attempts]
        exact hprefix
      have hagent := run_handleMessage h.nameSpace hrun
      rcases hresult with ⟨rfl, entry, otp, hentry, hstatus, hotp, hlast⟩ | ⟨m, rfl, -, entry, hentry, hstatus⟩ |
        ⟨e, rfl, he, hsame⟩
      · exact ⟨true, u, hagent, hattempts, .inr ⟨rfl, entry, hentry, .inr ⟨hstatus, otp, hotp, hlast⟩⟩⟩
      · exact ⟨true, u, hagent, hattempts, .inr ⟨rfl, entry, hentry, .inl hstatus⟩⟩
      · refine ⟨false, u, ?_, hattempts, .inl ⟨rfl, hsame.trans hentries⟩⟩
        rw [hagent]
        cases e with
        | failed m => exact absurd rfl (he m)
        | retry m => rfl
        | other m => rfl

end Agent

/-! ### A prefix with twelve characters -/

/-- An environment in which all commands are answered in the same way. -/
def plainEnv (hostnamePrefix : String) : PresetEnv where
  awsAccount := some "123456789012"
  clusterName := some "res-demo"
  awsRegion := some "us-east-1"
  hostnamePrefix := some hostnamePrefix
  computersOu := some "Computers"
  domainName := "corp.res.com"
  adNetbios := "CORP"
  ldapRootUsername := "Admin"
  ldapBase := "dc=corp,dc=res,dc=com"
  describeInstances _ := .ok [⟨some "infra", some "vdc"⟩]
  shake256 data := data
  upper s := s
  adcli _ _ := ⟨0, "", "", 1⟩
  searchComputers _ _ _ := .ok 0
  choice _ _ := 'a'
  currentTimeMs := 1722470400000
  entryTtlSeconds := 1800

/-- The message of a host without a hostname. -/
def joinMessage : QueueMessage where
  senderId := some "AROAZKN2GIY65I74VE5YH:i-035b89c7f49714a3e"
  nameSpace := some "ADAutomation.PresetComputer"
  nonce := some "n-1"
  hostname := none

theorem joinRequest_joinMessage (hostnamePrefix : String) :
    JoinRequest (plainEnv hostnamePrefix) joinMessage "i-035b89c7f49714a3e" "n-1" where
  nameSpace := by decide
  sender := ⟨"AROAZKN2GIY65I74VE5YH:i-035b89c7f49714a3e", "AROAZKN2GIY65I74VE5YH", by decide, by decide⟩
  running := ⟨_, [], rfl⟩
  nonce := by decide

/-- With a prefix of twelve characters the message is deleted, and the host waits for an entry that is never
written. -/
theorem not_joinMeets_longPrefix : ¬ JoinMeets (plainEnv "ENGINEERING-") ∅ joinMessage "i-035b89c7f49714a3e" "n-1" := by
  rintro ⟨deleted, t, hrun, -, hresult⟩
  have hrequest := joinRequest_joinMessage "ENGINEERING-"
  have hlong : PrefixTooLong (plainEnv "ENGINEERING-") joinMessage :=
    ⟨⟨Option.some_ne_none _, Option.some_ne_none _, Option.some_ne_none _⟩, rfl, by decide⟩
  rcases newHelper_cases hrequest ∅ with ⟨-, m, hfailed⟩ | ⟨hfits, -⟩
  · have hprocess : (processRequest (plainEnv "ENGINEERING-") joinMessage).run ⟨[], ∅⟩ =
        (.error (.failed m), ⟨[], ∅⟩) := by
      rw [processRequest_eq hrequest.nameSpace]
      exact Proc.run_bind_of_error hfailed
    rw [run_handleMessage hrequest.nameSpace hprocess, Prod.mk.injEq] at hrun
    obtain ⟨hdeleted, rfl⟩ := hrun
    rcases hresult with ⟨hfalse, -⟩ | ⟨-, entry, hentry, -⟩
    · rw [hfalse] at hdeleted
      exact nomatch Except.ok.inj hdeleted
    · rw [Table.getItem_empty] at hentry
      exact nomatch hentry
  · exact hfits hlong

/-- The request with the default prefix. -/
theorem joinMeets_iff_default : JoinMeets (plainEnv "IDEA-") ∅ joinMessage "i-035b89c7f49714a3e" "n-1" ↔
      (PrefixTooLong (plainEnv "IDEA-") joinMessage → OldFailure ∅ "i-035b89c7f49714a3e" "n-1") :=
  joinMeets_iff (joinRequest_joinMessage "IDEA-") ∅

end ContainRes.PresetComputer
