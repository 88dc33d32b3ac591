import MemberDiscovery.Proofs.Deployment.Exchanges

/-! # Metadata of a provider

A process in a cloud asks its provider for some values, one after the other. What the requests get
is a matter of the network alone, and `Network.providerAnswers` lists it. If every request gets an
answer, the values of those that were successful are kept (`exec_askProvider_answered`); at the
first request without an answer the search ends, and nothing is kept of the answers before it
(`exec_askProvider_interrupted`). Either way there is a configuration, which has identity and
address from the values that are kept and everything else as configured
(`Action.cloudConfig_whole_or_generic`).
-/

namespace MemberDiscovery

namespace Network

variable (network : Network)

/-- The reply to the request with a number, counted from the next one. -/
def replyAt (number : Nat) : Option HttpReply :=
  network.script[number]?.getD (some notFound)

/-- The network after so many requests. -/
def after (count : Nat) : Network :=
  { network with script := network.script.drop count }

theorem reply_eq : network.reply = (network.replyAt 0, network.after 1) := by
  obtain ⟨server, script⟩ := network
  cases script <;> rfl

@[simp] theorem after_zero : network.after 0 = network := rfl

theorem after_after (first second : Nat) :
    (network.after first).after second = network.after (first + second) := by
  simp [after]

theorem replyAt_after (count number : Nat) :
    (network.after count).replyAt number = network.replyAt (count + number) := by
  simp [replyAt, after]

/-- The request for a value of the provider, if it reaches a server: there is such an address, and
somebody accepts the connection. -/
def providerRequest? (base path : String) : Option HttpCall :=
  (Url.parse? (base ++ "/" ++ path)).bind fun url =>
    if network.accepts ((HttpCall.plain "GET").route none url).1 then
      some ((HttpCall.plain "GET").route none url).2
    else none

/-- The answer to the request for a value, if it is the request with a number. -/
def providerAnswer? (base : String) (number : Nat) (path : String) : Option HttpReply :=
  (network.providerRequest? base path).bind fun _ => network.replyAt number

/-- The answers to the requests for the values of keys, if every one is made. -/
def providerAnswers (base : String) (keys : List (String × String)) : List (Option HttpReply) :=
  keys.mapIdx fun number entry => network.providerAnswer? base number entry.1

/-- The requests for the values of keys, as far as they reach a server. -/
def providerRequests (base : String) (keys : List (String × String)) : List HttpCall :=
  keys.filterMap fun entry => network.providerRequest? base entry.1

@[simp] theorem providerRequest?_after (count : Nat) (base path : String) :
    (network.after count).providerRequest? base path = network.providerRequest? base path := rfl

@[simp] theorem providerRequests_after (count : Nat) (base : String)
    (keys : List (String × String)) :
    (network.after count).providerRequests base keys = network.providerRequests base keys := rfl

theorem providerAnswers_cons (base path key : String) (rest : List (String × String)) :
    network.providerAnswers base ((path, key) :: rest) =
      network.providerAnswer? base 0 path :: (network.after 1).providerAnswers base rest := by
  simp only [providerAnswers, List.mapIdx_cons, providerAnswer?, providerRequest?_after,
    replyAt_after, Nat.add_comm 1]

theorem providerRequests_cons_of_some {base path : String} {call : HttpCall}
    (hcall : network.providerRequest? base path = some call) (key : String)
    (rest : List (String × String)) :
    network.providerRequests base ((path, key) :: rest) =
      call :: network.providerRequests base rest := by
  rw [providerRequests, List.filterMap_cons_some (by exact hcall)]
  rfl

variable {network}

/-- A request that is answered reached a server. -/
theorem exists_providerRequest {base path : String} {number : Nat} {reply : HttpReply}
    (hanswer : network.providerAnswer? base number path = some reply) :
    ∃ call, network.providerRequest? base path = some call := by
  obtain ⟨call, hcall, -⟩ := Option.bind_eq_some_iff.mp hanswer
  exact ⟨call, hcall⟩

/-- If all requests are answered, all of them reached a server. -/
theorem map_some_providerRequests {base : String} {keys : List (String × String)}
    {replies : List HttpReply} (hanswers : network.providerAnswers base keys = replies.map some) :
    (network.providerRequests base keys).map some =
      keys.map fun entry => network.providerRequest? base entry.1 := by
  induction keys generalizing network replies with
  | nil => rfl
  | cons entry rest ih =>
      obtain ⟨path, key⟩ := entry
      rw [providerAnswers_cons] at hanswers
      cases replies with
      | nil => cases hanswers
      | cons reply replies =>
          obtain ⟨hreply, hrest⟩ := List.cons.inj hanswers
          obtain ⟨call, hcall⟩ := exists_providerRequest hreply
          have hcalls := ih hrest
          simp only [providerRequests_after, providerRequest?_after] at hcalls
          rw [network.providerRequests_cons_of_some hcall, List.map_cons, hcalls, List.map_cons,
            hcall]

end Network

namespace Deployment

/-- The deployment after calls over the network. -/
def calling (calls : List HttpCall) (deployment : Deployment) : Deployment :=
  { deployment with
    network := deployment.network.after calls.length
    trace := deployment.trace ++ calls.map .called }

@[simp] theorem calling_nil (deployment : Deployment) : deployment.calling [] = deployment := by
  simp [calling]

theorem calling_cons (call : HttpCall) (calls : List HttpCall) (deployment : Deployment) :
    deployment.calling (call :: calls) = (deployment.calling [call]).calling calls := by
  simp [calling, Network.after_after, Nat.add_comm]

end Deployment

/-- What is kept of the replies to the requests for the values of keys. -/
def keptReplies (keys : List (String × String)) (replies : List HttpReply) :
    List (String × String) :=
  (keys.zip replies).filterMap fun (entry, reply) =>
    if reply.isSuccess then some (entry.2, Text.trim reply.text) else none

theorem keptReplies_cons (path key : String) (rest : List (String × String)) (reply : HttpReply)
    (replies : List HttpReply) :
    keptReplies ((path, key) :: rest) (reply :: replies) =
      (if reply.isSuccess then [(key, Text.trim reply.text)] else []) ++
        keptReplies rest replies := by
  simp only [keptReplies, List.zip_cons_cons, List.filterMap_cons]
  cases reply.isSuccess <;> rfl

namespace Action

variable {deployment : Deployment} {base : String}

theorem exec_exchange_of_accepts {url : Url} {call : HttpCall}
    (haccepts : deployment.network.accepts (call.route none url).1 = true) :
    (exchange none url call).exec deployment =
      (deployment.network.replyAt 0, deployment.calling [(call.route none url).2]) := by
  rw [exchange, exec_bind, exec_get]
  dsimp only
  rw [exec_ite, if_pos haccepts, Network.reply_eq]
  rfl

theorem exec_exchange_of_refuses {url : Url} {call : HttpCall}
    (hrefuses : ¬ deployment.network.accepts (call.route none url).1 = true) :
    (exchange none url call).exec deployment = (none, deployment) := by
  rw [exchange, exec_bind, exec_get]
  dsimp only
  rw [exec_ite, if_neg hrefuses]
  rfl

/-- The search is over with the first request that gets no answer, and any other answer leads to the
next request. -/
theorem exec_askProvider_cons (path key : String) (sofar : Table String)
    (rest : List (String × String)) :
    (askProvider base sofar ((path, key) :: rest)).exec deployment =
      match deployment.network.providerAnswer? base 0 path with
      | none => (none, deployment.calling (deployment.network.providerRequests base [(path, key)]))
      | some reply =>
        (askProvider base (sofar.insertAll (keptReplies [(path, key)] [reply])) rest).exec
          (deployment.calling (deployment.network.providerRequests base [(path, key)])) := by
  rw [askProvider, Network.providerAnswer?, Network.providerRequests]
  cases hurl : Url.parse? (base ++ "/" ++ path) with
  | none => simp [Network.providerRequest?, hurl]
  | some url =>
      by_cases haccepts : deployment.network.accepts ((HttpCall.plain "GET").route none url).1
      · have hrequest : deployment.network.providerRequest? base path =
            some ((HttpCall.plain "GET").route none url).2 := by
          simp [Network.providerRequest?, hurl, haccepts]
        simp only [exec_bind, exec_exchange_of_accepts haccepts, hrequest, Option.bind_some,
          List.filterMap_cons, List.filterMap_nil, keptReplies_cons]
        cases deployment.network.replyAt 0 with
        | none => rfl
        | some reply =>
            dsimp only
            split
            next => rfl
            next => rfl
      · have hrequest : deployment.network.providerRequest? base path = none := by
          simp [Network.providerRequest?, hurl, haccepts]
        simp [exec_bind, exec_exchange_of_refuses haccepts, hrequest]

/-- If every request gets an answer, all of them are made, and the values of those that were
successful are kept. -/
theorem exec_askProvider_answered {keys : List (String × String)} {replies : List HttpReply}
    (hanswers : deployment.network.providerAnswers base keys = replies.map some)
    (sofar : Table String) :
    (askProvider base sofar keys).exec deployment =
      (some (sofar.insertAll (keptReplies keys replies)),
        deployment.calling (deployment.network.providerRequests base keys)) := by
  induction keys generalizing deployment replies sofar with
  | nil =>
      have hcalling : deployment.calling (deployment.network.providerRequests base []) =
          deployment := deployment.calling_nil
      rw [hcalling]
      rfl
  | cons entry rest ih =>
      obtain ⟨path, key⟩ := entry
      rw [Network.providerAnswers_cons] at hanswers
      cases replies with
      | nil => cases hanswers
      | cons reply replies =>
          obtain ⟨hreply, hrest⟩ := List.cons.inj hanswers
          obtain ⟨call, hcall⟩ := Network.exists_providerRequest hreply
          have hone : deployment.network.providerRequests base [(path, key)] = [call] :=
            Network.providerRequests_cons_of_some _ hcall key []
          have hinsert : (sofar.insertAll (keptReplies [(path, key)] [reply])).insertAll
              (keptReplies rest replies) =
                sofar.insertAll (keptReplies ((path, key) :: rest) (reply :: replies)) := by
            rw [keptReplies_cons path key rest, keptReplies_cons path key []]
            split <;> rfl
          rw [exec_askProvider_cons, hreply, hone]
          dsimp only
          rw [ih (by exact hrest), hinsert, Network.providerRequests_cons_of_some _ hcall,
            deployment.calling_cons call (deployment.network.providerRequests base rest)]
          rfl

/-- The first request without an answer is the last one, and nothing is kept. -/
theorem exec_askProvider_interrupted {keys : List (String × String)} {replies : List HttpReply}
    {others : List (Option HttpReply)}
    (hanswers : deployment.network.providerAnswers base keys = replies.map some ++ none :: others)
    (sofar : Table String) :
    (askProvider base sofar keys).exec deployment =
      (none, deployment.calling
        (deployment.network.providerRequests base (keys.take (replies.length + 1)))) := by
  induction keys generalizing deployment replies sofar with
  | nil => simp [Network.providerAnswers] at hanswers
  | cons entry rest ih =>
      obtain ⟨path, key⟩ := entry
      rw [Network.providerAnswers_cons] at hanswers
      rw [exec_askProvider_cons]
      cases replies with
      | nil =>
          obtain ⟨hnone, -⟩ := List.cons.inj hanswers
          rw [hnone]
          rfl
      | cons reply replies =>
          obtain ⟨hreply, hrest⟩ := List.cons.inj hanswers
          obtain ⟨call, hcall⟩ := Network.exists_providerRequest hreply
          have hone : deployment.network.providerRequests base [(path, key)] = [call] :=
            Network.providerRequests_cons_of_some _ hcall key []
          rw [hreply, hone]
          dsimp only
          rw [ih (by exact hrest), List.length_cons, List.take_succ_cons,
            Network.providerRequests_cons_of_some _ hcall, deployment.calling_cons call
              (deployment.network.providerRequests base (rest.take (replies.length + 1)))]
          rfl

end Action

/-! ## What is kept -/

theorem mem_keptReplies_iff {keys : List (String × String)} {replies : List HttpReply}
    {key value : String} :
    (key, value) ∈ keptReplies keys replies ↔ ∃ (number : Nat) (path : String) (reply : HttpReply),
      keys[number]? = some (path, key) ∧ replies[number]? = some reply ∧
        reply.isSuccess = true ∧ value = Text.trim reply.text := by
  rw [keptReplies, List.mem_filterMap]
  constructor
  · rintro ⟨⟨⟨path, other⟩, reply⟩, hmem, hkept⟩
    obtain ⟨number, hnumber⟩ := List.mem_iff_getElem?.mp hmem
    obtain ⟨hkey, hreply⟩ := List.getElem?_zip_eq_some.mp hnumber
    dsimp only at hkept
    split at hkept
    next hsuccess =>
      obtain ⟨rfl, rfl⟩ := Prod.mk.inj (Option.some.inj hkept)
      exact ⟨number, path, reply, hkey, hreply, hsuccess, rfl⟩
    next => cases hkept
  · rintro ⟨number, path, reply, hkey, hreply, hsuccess, rfl⟩
    refine ⟨((path, key), reply), ?_, if_pos hsuccess⟩
    exact List.mem_iff_getElem?.mpr ⟨number, List.getElem?_zip_eq_some.mpr ⟨hkey, hreply⟩⟩

theorem pairwise_keptReplies {keys : List (String × String)}
    (hkeys : keys.Pairwise fun a b => a.2 ≠ b.2) {replies : List HttpReply}
    (hlength : keys.length ≤ replies.length) :
    (keptReplies keys replies).Pairwise fun a b => a.1 ≠ b.1 := by
  have hzip : (keys.zip replies).Pairwise fun a b => a.1.2 ≠ b.1.2 := by
    rw [← List.map_fst_zip hlength, List.pairwise_map] at hkeys
    exact hkeys
  have hkey : ∀ {entry : String × String} {reply : HttpReply} {kept : String × String},
      (if reply.isSuccess then some (entry.2, Text.trim reply.text) else none) = some kept →
        kept.1 = entry.2 := by
    intro entry reply kept hkept
    split at hkept
    next => rw [← Option.some.inj hkept]
    next => cases hkept
  refine hzip.filterMap _ ?_
  intro first second hne kept hkept other hother
  rw [hkey hkept, hkey hother]
  exact hne

/-- The metadata has the keys whose requests were answered with success, with the trimmed bodies. -/
def KeepsAnswers (replies : List HttpReply) (metadata : Table String) : Prop :=
  ∀ key value, metadata.get? key = some value ↔ ∃ (number : Nat) (path : String)
    (reply : HttpReply), Action.providerKeys[number]? = some (path, key) ∧
      replies[number]? = some reply ∧ reply.isSuccess = true ∧ value = Text.trim reply.text

theorem keepsAnswers_ofList {replies : List HttpReply}
    (hlength : replies.length = Action.providerKeys.length) :
    KeepsAnswers replies (Table.ofList (keptReplies Action.providerKeys replies)) := by
  have hkeys : Action.providerKeys.Pairwise fun a b => a.2 ≠ b.2 := by decide
  intro key value
  rw [Table.get?_ofList_iff_mem (pairwise_keptReplies hkeys (Nat.le_of_eq hlength.symm)),
    mem_keptReplies_iff]

/-- A value is that of the first of some keys with one that is not empty, or else the configured
one. -/
inductive Takes {α : Type} (metadata : Table String) (configured : α) (ofText : String → α) :
    List String → α → Prop where
  | configured : Takes metadata configured ofText [] configured
  | given {key : String} {keys : List String} {value : String}
      (hvalue : metadata.get? key = some value) (hnonempty : value ≠ "") :
      Takes metadata configured ofText (key :: keys) (ofText value)
  | passed {key : String} {keys : List String} {taken : α}
      (hempty : ∀ value, metadata.get? key = some value → value = "")
      (htakes : Takes metadata configured ofText keys taken) :
      Takes metadata configured ofText (key :: keys) taken

theorem Takes.cons {α : Type} {metadata : Table String} {configured : α} {ofText : String → α}
    {keys : List String} {taken : α} (htakes : Takes metadata configured ofText keys taken)
    (key : String) :
    Takes metadata configured ofText (key :: keys)
      (((InstanceConfig.metadataValue? metadata key).map ofText).getD taken) := by
  cases hvalue : InstanceConfig.metadataValue? metadata key with
  | some value =>
      obtain ⟨hget, hnonempty⟩ := Option.filter_eq_some_iff.mp hvalue
      exact .given hget (by simpa using hnonempty)
  | none =>
      refine .passed ?_ htakes
      intro value hget
      simpa [InstanceConfig.metadataValue?, hget, Option.filter] using hvalue

theorem Takes.eq_of_get? {α : Type} {metadata : Table String} {configured taken : α}
    {ofText : String → α} {key value : String} {keys : List String}
    (htakes : Takes metadata configured ofText (key :: keys) taken)
    (hvalue : metadata.get? key = some value) (hnonempty : value ≠ "") : taken = ofText value := by
  cases htakes with
  | given hother _ => rw [Option.some.inj (hvalue.symm.trans hother)]
  | passed hempty _ => exact absurd (hempty value hvalue) hnonempty

/-- A configuration has its identity and its address from metadata, the public host name before the
local one, and everything else as configured. -/
structure InstanceConfig.IdentifiedBy (cloud : InstanceConfig) (metadata : Table String)
    (generic : InstanceConfig) : Prop where
  instanceId : Takes metadata generic.instanceId some ["instance-id"] cloud.instanceId
  hostName : Takes metadata generic.hostName id ["public-hostname", "local-hostname"] cloud.hostName
  ipAddress : Takes metadata generic.ipAddress id ["local-ipv4"] cloud.ipAddress
  others : cloud = { generic with
    instanceId := cloud.instanceId, hostName := cloud.hostName, ipAddress := cloud.ipAddress
    dataCenter := .amazon metadata }

theorem InstanceConfig.identifiedBy_withProviderMetadata (metadata : Table String)
    (generic : InstanceConfig) :
    (generic.withProviderMetadata metadata).IdentifiedBy metadata generic where
  instanceId := by
    have hconfigured : Takes metadata generic.instanceId some [] generic.instanceId := .configured
    have htakes := hconfigured.cons "instance-id"
    rw [withProviderMetadata]
    cases hvalue : metadataValue? metadata "instance-id" <;> simpa [hvalue] using htakes
  hostName := by
    have hconfigured : Takes metadata generic.hostName id [] generic.hostName := .configured
    have htakes := (hconfigured.cons "local-hostname").cons "public-hostname"
    rw [withProviderMetadata]
    cases hvalue : metadataValue? metadata "public-hostname" <;> simpa [hvalue] using htakes
  ipAddress := by
    have hconfigured : Takes metadata generic.ipAddress id [] generic.ipAddress := .configured
    have htakes := hconfigured.cons "local-ipv4"
    rw [withProviderMetadata]
    simpa using htakes
  others := rfl

/-- Either every request gets an answer, or there is a first one that gets none. -/
theorem exists_replies (answers : List (Option HttpReply)) :
    (∃ replies : List HttpReply, answers = replies.map some) ∨
      ∃ (replies : List HttpReply) (others : List (Option HttpReply)),
        answers = replies.map some ++ none :: others := by
  induction answers with
  | nil => exact .inl ⟨[], rfl⟩
  | cons answer rest ih =>
      cases answer with
      | none => exact .inr ⟨[], rest, rfl⟩
      | some reply =>
          rcases ih with ⟨replies, rfl⟩ | ⟨replies, others, rfl⟩
          · exact .inl ⟨reply :: replies, rfl⟩
          · exact .inr ⟨reply :: replies, others, rfl⟩

namespace Action

variable {deployment : Deployment} {replies : List HttpReply}

/-- What the paths of the values are put behind. -/
def providerBase (url : String) : String :=
  String.ofList (Text.dropTrailing (· = '/') url.toList)

theorem exec_providerMetadata_answered {url : String}
    (hanswers : deployment.network.providerAnswers (providerBase url) providerKeys =
      replies.map some) :
    (providerMetadata url).exec deployment =
      (Table.ofList (keptReplies providerKeys replies), deployment.calling
        (deployment.network.providerRequests (providerBase url) providerKeys)) := by
  have hexec := exec_askProvider_answered hanswers ∅
  unfold providerMetadata
  unfold providerBase at *
  rw [exec_bind, hexec]
  rfl

theorem exec_providerMetadata_interrupted {url : String} {others : List (Option HttpReply)}
    (hanswers : deployment.network.providerAnswers (providerBase url) providerKeys =
      replies.map some ++ none :: others) :
    ∃ message, (providerMetadata url).exec deployment =
      (∅, (deployment.calling (deployment.network.providerRequests (providerBase url)
        (providerKeys.take (replies.length + 1)))).note (.logged .warning message [])) := by
  have hexec := exec_askProvider_interrupted hanswers ∅
  unfold providerMetadata
  unfold providerBase at *
  rw [exec_bind, hexec]
  exact ⟨_, rfl⟩

theorem exec_readInstanceConfig_cloud {scope : Scope} {generic : InstanceConfig}
    {metadata : Table String} {after : Deployment}
    (hread : InstanceConfig.ofScope deployment.machine scope = .ok generic)
    (hmetadata : (providerMetadata (scope.text "amazon.metadataUrl" providerUrl)).exec deployment =
      (metadata, after)) :
    (readInstanceConfig .cloud scope).exec deployment =
      (.ok (generic.withProviderMetadata metadata), after) := by
  rw [readInstanceConfig, exec_bind, exec_get]
  dsimp only
  rw [hread]
  dsimp only
  rw [exec_bind, hmetadata]
  rfl

/-- A process in a cloud is configured from the metadata of its provider as a whole, or as if there
were none. If its properties can be read, it is configured, whatever the provider does. Either every
request for a value gets an answer, and then all of them are made in their order and the values of
the successful ones are kept; or the first one without an answer is the last, and nothing is kept.
Identity and address are the values that are kept, and the configured ones in their absence. -/
theorem cloudConfig_whole_or_generic (scope : Scope) (deployment : Deployment) :
    (∀ error, InstanceConfig.ofScope deployment.machine scope = .error error →
      (readInstanceConfig .cloud scope).exec deployment = (.error error, deployment)) ∧
    ∀ generic, InstanceConfig.ofScope deployment.machine scope = .ok generic →
      let base := providerBase (scope.text "amazon.metadataUrl" providerUrl)
      let network := deployment.network
      ∃ cloud metadata after,
        (readInstanceConfig .cloud scope).exec deployment = (.ok cloud, after) ∧
        cloud.IdentifiedBy metadata generic ∧
        ((∃ replies : List HttpReply,
          network.providerAnswers base providerKeys = replies.map some ∧
          KeepsAnswers replies metadata ∧
          ∃ calls : List HttpCall,
            calls.map some =
              providerKeys.map (fun entry => network.providerRequest? base entry.1) ∧
            after = deployment.calling calls) ∨
        ∃ (replies : List HttpReply) (others : List (Option HttpReply)),
          network.providerAnswers base providerKeys = replies.map some ++ none :: others ∧
          cloud = { generic with dataCenter := .amazon ∅ } ∧
          ∃ message, after = (deployment.calling (network.providerRequests base
            (providerKeys.take (replies.length + 1)))).note (.logged .warning message [])) := by
  constructor
  · intro error hread
    rw [readInstanceConfig, exec_bind, exec_get]
    dsimp only
    rw [hread]
    rfl
  · intro generic hread base network
    rcases exists_replies (network.providerAnswers base providerKeys) with
      ⟨replies, hreplies⟩ | ⟨replies, others, hreplies⟩
    · have hexec := exec_readInstanceConfig_cloud hread (exec_providerMetadata_answered hreplies)
      have hlength := congrArg List.length hreplies
      rw [Network.providerAnswers, List.length_mapIdx, List.length_map] at hlength
      exact ⟨_, _, _, hexec, generic.identifiedBy_withProviderMetadata _, .inl ⟨replies, hreplies,
        keepsAnswers_ofList hlength.symm, _, Network.map_some_providerRequests hreplies, rfl⟩⟩
    · obtain ⟨message, hmetadata⟩ := exec_providerMetadata_interrupted hreplies
      have hexec := exec_readInstanceConfig_cloud hread hmetadata
      exact ⟨_, _, _, hexec, generic.identifiedBy_withProviderMetadata _,
        .inr ⟨replies, others, hreplies, rfl, message, rfl⟩⟩

def sampleMachine : Machine := ⟨"node-1.internal", "10.0.0.1"⟩

def sampleScope : Scope :=
  ⟨.ofList [("hazelcast.amazon.metadataUrl", "http://m/")], "hazelcast"⟩

/-- The provider knows the id, and not the image. -/
def sampleReplies : List HttpReply := [⟨200, " i-1\n"⟩, ⟨404, "none"⟩]

/-- A process without properties, and what its provider replies. -/
def sampleInCloud (script : List (Option HttpReply)) : Deployment :=
  { Deployment.start 0 sampleMachine (fun _ => "") with
    network := ⟨some ⟨"m", 80⟩, script⟩ }

/-- The id is used if the provider goes on to answer, and not if it closes the third connection. -/
theorem sample_cloudConfig :
    ∃ generic, InstanceConfig.ofScope sampleMachine sampleScope = .ok generic ∧
      (∃ cloud after, (readInstanceConfig .cloud sampleScope).exec
          (sampleInCloud (sampleReplies.map some)) = (.ok cloud, after) ∧
        cloud.instanceId = some "i-1") ∧
      ∃ after, (readInstanceConfig .cloud sampleScope).exec
          (sampleInCloud (sampleReplies.map some ++ [none])) =
            (.ok { generic with dataCenter := .amazon ∅ }, after) := by
  cases hread : InstanceConfig.ofScope sampleMachine sampleScope with
  | error error =>
      have hok : (InstanceConfig.ofScope sampleMachine sampleScope).isOk = true := by
        decide +kernel
      rw [hread] at hok
      cases hok
  | ok generic =>
      refine ⟨generic, rfl, ?_, ?_⟩
      · have hanswers : (sampleInCloud (sampleReplies.map some)).network.providerAnswers
            (providerBase (sampleScope.text "amazon.metadataUrl" providerUrl)) providerKeys =
              (sampleReplies ++ List.replicate 6 Network.notFound).map some := by decide +kernel
        obtain ⟨cloud, metadata, after, hexec, hidentified, hcases⟩ :=
          (cloudConfig_whole_or_generic sampleScope
            (sampleInCloud (sampleReplies.map some))).2 generic hread
        refine ⟨cloud, after, hexec, ?_⟩
        rcases hcases with ⟨replies, hreplies, hkeeps, -⟩ | ⟨replies, others, hreplies, -⟩
        · have hsame := hanswers.symm.trans hreplies
          rw [List.map_inj_right fun _ _ => Option.some.inj] at hsame
          subst hsame
          have hid : metadata.get? "instance-id" = some "i-1" :=
            (hkeeps "instance-id" "i-1").mpr
              ⟨0, "instance-id", ⟨200, " i-1\n"⟩, rfl, rfl, rfl, by decide +kernel⟩
          exact hidentified.instanceId.eq_of_get? hid (by decide)
        · have hnone : none ∈ replies.map some ++ none :: others := by simp
          rw [← hanswers.symm.trans hreplies] at hnone
          simp at hnone
      · have hnone : none ∈ (sampleInCloud
            (sampleReplies.map some ++ [none])).network.providerAnswers
              (providerBase (sampleScope.text "amazon.metadataUrl" providerUrl)) providerKeys := by
          decide +kernel
        obtain ⟨cloud, metadata, after, hexec, -, ⟨replies, hreplies, -⟩ | ⟨-, -, -, rfl, -⟩⟩ :=
          (cloudConfig_whole_or_generic sampleScope
            (sampleInCloud (sampleReplies.map some ++ [none]))).2 generic hread
        · rw [hreplies] at hnone
          simp at hnone
        · exact ⟨after, hexec⟩

end Action

end MemberDiscovery
