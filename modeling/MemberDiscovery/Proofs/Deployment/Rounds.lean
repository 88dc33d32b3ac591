import MemberDiscovery.Proofs.Client.Failover
import MemberDiscovery.Proofs.Deployment.Outside
import MemberDiscovery.Proofs.Deployment.Session
import MemberDiscovery.Proofs.Deployment.Soundness

/-! # The rounds of a client

What a client does with its servers is done in rounds: a registration, a heartbeat, a cancellation
and a lookup are one round each, and a renewal registers in a second round if the first one found
the record lost. Whatever is answered, the errors that are reported are those of the rounds
(`RegistryClient.FailsOver`).
-/

namespace MemberDiscovery

namespace RegistryClient

variable {client : RegistryClient} {number : Nat} {before : Deployment}

def record (client : RegistryClient) (deployment : Deployment) : Instance :=
  (deployment.managers.get client.manager).record

/-- A request is made in one round, which begins with the client's first server. Others see nothing
else, and the answer is that of the round. -/
def Asks (client : RegistryClient) (request : Request α) (before : Deployment)
    (answer : Except ClientError α) (after : Deployment) : Prop :=
  ∃ left, Failover.Round (Action.submit request) client.transports before answer left ∧
    after.outside = left.outside

/-- The error is a fatal one, as it was given by a server in its turn, or it is not fatal and says
that all servers failed. -/
def Gives (client : RegistryClient) (request : Request α) (before : Deployment)
    (error : ClientError) : Prop :=
  (error.isFatal = true ∧ ∃ asked server rest, client.transports = asked ++ server :: rest ∧
    ((Action.submit request server).exec
      ((asked.mapM (Action.submit request)).exec before).2).1 = .error error) ∨
  error.isFatal = false ∧ ∃ last, error = .allServersFailed client.transports.length last

/-- How a renewal may go. -/
inductive RenewalRounds (client : RegistryClient) (before : Deployment) :
    Except ClientError Unit → Deployment → Prop where
  | failed {error : ClientError} {after : Deployment}
      (hheartbeat : client.Asks (.heartbeat (client.record before)) before (.error error) after) :
      RenewalRounds client before (.error error) after
  | known {after : Deployment}
      (hheartbeat : client.Asks (.heartbeat (client.record before)) before (.ok .renewed) after) :
      RenewalRounds client before (.ok ()) after
  /-- Only a record that the deciding server does not know is registered. -/
  | lost {between after : Deployment} {answer : Except ClientError Unit}
      (hheartbeat : client.Asks (.heartbeat (client.record before)) before (.ok .notFound) between)
      (hregister : client.Asks (.register (client.record before)) between answer after) :
      RenewalRounds client before answer after

/-- What a client that has not ended does with its servers. -/
structure FailsOver (client : RegistryClient) (number : Nat) (before : Deployment) : Prop where
  register : client.Asks (.register (client.record before)) before
    ((Action.register client).exec before).1 ((Action.register client).exec before).2
  renew : client.RenewalRounds before
    ((Action.renew client).exec before).1 ((Action.renew client).exec before).2
  cancel : client.settings.registers = true → ∃ answer,
    client.Asks (.cancel (client.record before).app (client.record before).id) before answer
      ((Action.shutDown number).exec before).2
  lookup : ∀ app, client.settings.fetches = true → client.Asks (.lookup app) before
    ((Action.lookup number app).exec before).1 ((Action.lookup number app).exec before).2
  renewErrors : ∀ error, ((Action.renew client).exec before).1 = .error error →
    client.Gives (.heartbeat (client.record before)) before error ∨
      ∃ between, client.Asks (.heartbeat (client.record before)) before (.ok .notFound) between ∧
        client.Gives (.register (client.record before)) between error
  lookupErrors : ∀ app error, ((Action.lookup number app).exec before).1 = .error error →
    client.Gives (.lookup app) before error

theorem asks_failover (htransports : client.transports ≠ []) (request : Request α)
    (before : Deployment) :
    client.Asks request before
      ((failover (Action.submit request) client.transports).exec before).1
      ((failover (Action.submit request) client.transports).exec before).2 :=
  ⟨_, Failover.round_failover (Action.submit request) htransports before, rfl⟩

theorem Asks.congr {request : Request α} {answer : Except ClientError α} {after other : Deployment}
    (hasks : client.Asks request before answer after) (hother : other.outside = after.outside) :
    client.Asks request before answer other := by
  obtain ⟨left, hround, hleft⟩ := hasks
  exact ⟨left, hround, hother.trans hleft⟩

theorem Asks.gives {request : Request α} {error : ClientError} {after : Deployment}
    (hasks : client.Asks request before (.error error) after) :
    client.Gives request before error := by
  obtain ⟨left, hround, -⟩ := hasks
  rcases hround.error_cases with ⟨hfatal, asked, server, rest, between, hservers, rfl, hanswer⟩ |
    ⟨last, rfl, hlast⟩
  · exact .inl ⟨hfatal, asked, server, rest, hservers, congrArg Prod.fst hanswer⟩
  · exact .inr ⟨hlast, last, rfl⟩

theorem asks_register (htransports : client.transports ≠ []) (before : Deployment) :
    client.Asks (.register (client.record before)) before
      ((Action.register client).exec before).1 ((Action.register client).exec before).2 := by
  rw [Action.answer_register]
  exact (asks_failover htransports _ before).congr (Action.outside_register client before)

theorem renewalRounds (htransports : client.transports ≠ []) (hlive : client.isShutDown = false)
    (before : Deployment) :
    client.RenewalRounds before
      ((Action.renew client).exec before).1 ((Action.renew client).exec before).2 := by
  obtain ⟨⟨answer, between⟩, hfailover⟩ : ∃ result, (failover (Action.submit
    (.heartbeat (client.record before))) client.transports).exec before = result := ⟨_, rfl⟩
  have hasks := asks_failover htransports (.heartbeat (client.record before)) before
  have hmanagers := (Action.own_failover (.heartbeat (client.record before)) client.transports
    before).2
  have hrecord : (before.managers.get client.manager).record = client.record before := rfl
  rw [hfailover] at hasks hmanagers
  rw [Action.renew_of_live hlive, Action.renewLease, Action.exec_bind, Action.exec_getManager,
    Action.exec_bind, hrecord, hfailover]
  cases answer with
  | error error => exact .failed hasks
  | ok heartbeat =>
      cases heartbeat with
      | renewed => exact .known hasks
      | notFound =>
          -- The record was not changed in between, so it is the same that is registered.
          let noted := between.note (.logged .info
            ("Registry lost " ++ (client.record before).id ++ ", registering again") [])
          have hnoted : client.record noted = client.record before :=
            congrArg (fun managers => (Slots.get managers client.manager).record) hmanagers
          have hregister := asks_register htransports noted
          rw [hnoted] at hregister
          exact .lost (hasks.congr (Deployment.outside_note_logged _ _ _)) hregister

theorem RenewalRounds.gives {error : ClientError} {after : Deployment}
    (hrounds : client.RenewalRounds before (.error error) after) :
    client.Gives (.heartbeat (client.record before)) before error ∨
      ∃ between, client.Asks (.heartbeat (client.record before)) before (.ok .notFound) between ∧
        client.Gives (.register (client.record before)) between error := by
  cases hrounds with
  | failed hheartbeat => exact .inl hheartbeat.gives
  | lost hheartbeat hregister => exact .inr ⟨_, hheartbeat, hregister.gives⟩

theorem failsOver (htransports : client.transports ≠ []) (hlive : client.isShutDown = false)
    (hclient : before.clients.get number = .registry client) : client.FailsOver number before where
  register := asks_register htransports before
  renew := renewalRounds htransports hlive before
  cancel hregisters := by
    refine ⟨_, (asks_failover htransports _ before).congr ?_⟩
    rw [Action.outside_shutDown hclient hlive, if_pos hregisters]
    rfl
  lookup app hfetches := by
    rw [Action.exec_lookup_of_live hclient hlive, if_pos hfetches]
    exact asks_failover htransports (.lookup app) before
  renewErrors error herror := by
    have hrounds := renewalRounds htransports hlive before
    rw [herror] at hrounds
    exact hrounds.gives
  lookupErrors app error herror := by
    rw [Action.exec_lookup_of_live hclient hlive] at herror
    split at herror
    next =>
      have hasks := asks_failover htransports (.lookup app) before
      rw [herror] at hasks
      exact hasks.gives
    next => cases herror

end RegistryClient

/-- A client that was made has a server. -/
theorem Action.transports_ne_nil_of_connect {manager number : Nat} {settings : ClientSettings}
    {kind : TransportKind} {start after : Deployment} {client : RegistryClient}
    (hconnect : (connect manager settings kind).exec start = (.ok number, after))
    (hclient : after.clients.get number = .registry client) :
    client.transports ≠ [] ∧ client.isShutDown = false := by
  obtain ⟨hurls, transports, htransports, hmade⟩ := client_of_connect hconnect
  rw [hmade] at hclient
  cases hclient
  refine ⟨?_, rfl⟩
  obtain ⟨url, rest, hordered⟩ := List.exists_cons_of_ne_nil hurls
  rw [hordered] at htransports
  obtain ⟨first, others, -, -, rfl⟩ := mapM_cons_eq_ok htransports
  exact List.cons_ne_nil first others

/-- Asking servers with failover is a round for all servers that answer in any way. So a client does
everything in rounds over all its servers, from when it was made and until it ends, whatever
happens around it meanwhile. -/
theorem requests_fail_over :
    (∀ {σ Server α : Type} (ask : Server → StateM σ (Except ClientError α)) (servers : List Server)
      (before : σ), servers ≠ [] →
        Failover.Round ask servers before ((failover ask servers).run before).1
          ((failover ask servers).run before).2) ∧
    ∀ (manager : Nat) (settings : ClientSettings) (kind : TransportKind) (start made : Deployment)
      (number : Nat) (client : RegistryClient),
        (Action.connect manager settings kind).exec start = (.ok number, made) →
        made.clients.get number = .registry client →
          ∀ before : Deployment, before.clients.get number = .registry client →
            client.FailsOver number before := by
  refine ⟨fun ask servers before hservers => Failover.round_failover ask hservers before, ?_⟩
  intro manager settings kind start made number client hconnect hmade before hclient
  obtain ⟨htransports, hlive⟩ := Action.transports_ne_nil_of_connect hconnect hmade
  exact RegistryClient.failsOver htransports hlive hclient

/-- Servers that note who is asked. Only the first one fails. -/
def Failover.sampleAsk (server : String) : StateM (List String) (Except ClientError Nat) :=
  fun asked => (if server = "first" then .error .noAnswer else .ok 0, asked ++ [server])

/-- The third of three servers is not asked, and a client that was made does as all clients do. -/
theorem sample_requests_fail_over :
    Failover.Round Failover.sampleAsk ["first", "second", "third"] [] (.ok 0) ["first", "second"] ∧
      ∃ client, (SessionStep.sampleRun []).clients.get 0 = .registry client ∧
        client.FailsOver 0 (SessionStep.sampleRun []) := by
  have hconnect : (Action.connect 0 SessionStep.sampleSettings (.memory 0)).exec
      SessionStep.sampleStart = (.ok 0, SessionStep.sampleRun []) :=
    Prod.ext (by decide +kernel) rfl
  obtain ⟨-, transports, -, hclient⟩ := Action.client_of_connect hconnect
  exact ⟨requests_fail_over.1 Failover.sampleAsk _ [] (by simp), _, hclient,
    requests_fail_over.2 _ _ _ _ _ _ _ hconnect hclient _ hclient⟩

end MemberDiscovery
