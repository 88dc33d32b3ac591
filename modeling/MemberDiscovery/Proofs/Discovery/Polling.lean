import MemberDiscovery.Proofs.Deployment.Rounds
import MemberDiscovery.Proofs.Discovery.Reachability

/-! # Polling for an application

`Action.poll` looks an application up in so many rounds, with a pause between any two of them and
none at the end, and gives all answers. It is what the waiting of a member is compared with.
Messages in the log make no difference to lookups (`Action.exists_lookup_of_sameButLogs`), so
waiting may be the same as polling although it says what it does.
-/

namespace MemberDiscovery

/-- Whether somebody who waits for an answer is done with it: it is an application, or an error that
trying again does not help against. -/
def LookupAnswer.settles : LookupAnswer → Bool
  | .ok (some _) => true
  | .ok none => false
  | .error error => error.isFatal

/-! ## Actions on related deployments -/

namespace Action

variable {α β : Type}

/-- The action answers alike in related deployments and leaves related ones behind. -/
def Congruent (R : Deployment → Deployment → Prop) (action : Action α) : Prop :=
  ∀ left right, R left right →
    (action.exec left).1 = (action.exec right).1 ∧ R (action.exec left).2 (action.exec right).2

namespace Congruent

variable {R : Deployment → Deployment → Prop}

theorem pure (value : α) : Congruent R (Pure.pure value : Action α) :=
  fun _ _ hrelated => ⟨rfl, hrelated⟩

theorem bind {action : Action α} {next : α → Action β} (haction : Congruent R action)
    (hnext : ∀ value, Congruent R (next value)) : Congruent R (action >>= next) := by
  intro left right hrelated
  obtain ⟨hanswer, hafter⟩ := haction left right hrelated
  rw [exec_bind, exec_bind, hanswer]
  exact hnext _ _ _ hafter

theorem ite {condition : Prop} [Decidable condition] {first second : Action α}
    (hfirst : Congruent R first) (hsecond : Congruent R second) :
    Congruent R (if condition then first else second) := by
  split
  · exact hfirst
  · exact hsecond

theorem failover {ask : Transport → Action (Except ClientError α)}
    (hask : ∀ server, Congruent R (ask server)) (servers : List Transport) :
    Congruent R (MemberDiscovery.failover ask servers) := by
  have hrest : ∀ (attempted : Nat) (last : Option ClientError),
      Congruent R (Failover.askRest ask attempted last servers) := by
    induction servers with
    | nil =>
        intro attempted last
        cases last <;> exact .pure _
    | cons server rest ih =>
        intro attempted last
        refine .bind (hask server) ?_
        intro answer
        cases answer with
        | ok answer => exact .pure _
        | error error => exact .ite (.pure _) (ih _ _)
  exact hrest 0 none

/-- Requests over the network are congruent if related deployments have the same network and calls
relate them again. -/
theorem submitRemote (hnetwork : ∀ left right, R left right → left.network = right.network)
    (hcalled : ∀ left right network call, R left right →
      R ({ left with network }.note (.called call)) ({ right with network }.note (.called call)))
    (server : RemoteRegistry) (request : Request α) :
    Congruent R (Action.submitRemote server request) := by
  unfold Action.submitRemote
  split
  next => exact .pure _
  next url _ =>
    refine .bind ?_ ?_
    · intro left right hrelated
      unfold Action.exchange
      rw [exec_bind, exec_bind, exec_get, exec_get]
      dsimp only
      rw [exec_ite, exec_ite, hnetwork left right hrelated]
      split
      next => exact ⟨rfl, hcalled left right _ _ hrelated⟩
      next => exact ⟨rfl, hrelated⟩
    · intro reply
      cases reply <;> exact .pure _

/-- Lookups are congruent if related deployments have the same client there, and requests and the
answers of scripts relate them again. -/
theorem lookup {number : Nat} {app : String}
    (hclients : ∀ left right, R left right →
      left.clients.get number = right.clients.get number)
    (hsubmit : ∀ server, Congruent R (Action.submit (.lookup app) server))
    (hscripted : ∀ left right client, R left right →
      R ((left.note (.lookedUp app)).setClient number client)
        ((right.note (.lookedUp app)).setClient number client)) :
    Congruent R (Action.lookup number app) := by
  intro left right hrelated
  unfold Action.lookup
  rw [exec_bind, exec_bind, exec_get, exec_get]
  dsimp only
  rw [← hclients left right hrelated]
  cases left.clients.get number with
  | scripted client => exact ⟨rfl, hscripted left right _ hrelated⟩
  | registry client =>
      have hregistry : Congruent R (lookupRegistry client app) :=
        .ite (.pure _) (.ite (.pure _) (.failover hsubmit _))
      exact hregistry left right hrelated

end Congruent

end Action

/-! ## Deployments without their logs -/

def Event.isLog : Event → Bool
  | .logged _ _ _ => true
  | _ => false

namespace Deployment

/-- What happened and how things are, apart from the messages in the log. -/
def withoutLogs (deployment : Deployment) : Deployment :=
  { deployment with trace := deployment.trace.filter fun event => !event.isLog }

@[simp] theorem withoutLogs_note_logged (level : LogLevel) (message : String)
    (fields : List (String × String)) (deployment : Deployment) :
    (deployment.note (.logged level message fields)).withoutLogs = deployment.withoutLogs := by
  simp [note, withoutLogs, List.filter_append, Event.isLog]

theorem withoutLogs_note {event : Event} (hevent : event.isLog = false) (deployment : Deployment) :
    (deployment.note event).withoutLogs = deployment.withoutLogs.note event := by
  simp [note, withoutLogs, List.filter_append, hevent]

theorem withoutLogs_foldl_intervene (interventions : List Intervention) (deployment : Deployment) :
    (interventions.foldl intervene deployment).withoutLogs =
      interventions.foldl intervene deployment.withoutLogs := by
  induction interventions generalizing deployment with
  | nil => rfl
  | cons intervention rest ih =>
      have hfirst : (deployment.intervene intervention).withoutLogs =
          deployment.withoutLogs.intervene intervention := by
        cases intervention <;> rfl
      rw [List.foldl_cons, List.foldl_cons, ih, hfirst]

/-- A sleep during which nobody else does anything. -/
theorem sleep_of_interventions_eq_nil {deployment : Deployment}
    (hnone : deployment.interventions = []) (milliseconds : Nat) :
    deployment.sleep milliseconds =
      (deployment.advance milliseconds).note (.slept milliseconds) := by
  simp only [sleep, note, advance, hnone]

theorem sleep_of_interventions_eq_cons {deployment : Deployment} {actions : List Intervention}
    {later : List (List Intervention)} (hsome : deployment.interventions = actions :: later)
    (milliseconds : Nat) :
    deployment.sleep milliseconds = actions.foldl intervene
      { (deployment.advance milliseconds).note (.slept milliseconds) with
        interventions := later } := by
  simp only [sleep, note, advance, hsome]

theorem withoutLogs_sleep (milliseconds : Nat) (deployment : Deployment) :
    (deployment.sleep milliseconds).withoutLogs = deployment.withoutLogs.sleep milliseconds := by
  have hslept : ((deployment.advance milliseconds).note (.slept milliseconds)).withoutLogs =
      (deployment.withoutLogs.advance milliseconds).note (.slept milliseconds) :=
    withoutLogs_note rfl _
  cases hinterventions : deployment.interventions with
  | nil =>
      have hquiet : deployment.withoutLogs.interventions = [] := hinterventions
      rw [sleep_of_interventions_eq_nil hinterventions, hslept,
        sleep_of_interventions_eq_nil hquiet]
  | cons actions later =>
      have hbusy : deployment.withoutLogs.interventions = actions :: later := hinterventions
      rw [sleep_of_interventions_eq_cons hinterventions, withoutLogs_foldl_intervene,
        sleep_of_interventions_eq_cons hbusy, ← hslept]
      rfl

end Deployment

namespace Action

/-- Deployments that differ in nothing but their logs. -/
abbrev SameButLogs (left right : Deployment) : Prop := left.withoutLogs = right.withoutLogs

namespace Congruent

variable {α : Type}

theorem sleep_logs (milliseconds : Nat) :
    Congruent SameButLogs (modify (·.sleep milliseconds) : Action PUnit) := by
  intro left right hsame
  refine ⟨rfl, ?_⟩
  rw [SameButLogs, exec_modify, exec_modify, Deployment.withoutLogs_sleep,
    Deployment.withoutLogs_sleep, hsame]

theorem submit_logs (request : Request α) (server : Transport) :
    Congruent SameButLogs (Action.submit request server) := by
  cases server with
  | memory registry url =>
      intro left right hsame
      have heq : left.withoutLogs = right.withoutLogs := hsame
      -- Neither side of these equations reads the trace.
      have hanswer := congrArg (fun deployment =>
        ((deployment.registries.get registry).submit deployment.clock request).1) heq
      have hafter := congrArg (fun deployment => deployment.setRegistry registry
        ((deployment.registries.get registry).submit deployment.clock request).2) heq
      exact ⟨hanswer, hafter⟩
  | remote server =>
      refine submitRemote (R := SameButLogs) ?_ ?_ server request
      · intro left right hsame
        have hnetwork : left.withoutLogs.network = right.withoutLogs.network := by rw [hsame]
        exact hnetwork
      · intro left right network call hsame
        rw [SameButLogs, Deployment.withoutLogs_note rfl, Deployment.withoutLogs_note rfl]
        exact congrArg (fun deployment : Deployment =>
          { deployment with network }.note (.called call)) hsame

theorem lookup_logs (number : Nat) (app : String) :
    Congruent SameButLogs (Action.lookup number app) := by
  refine lookup (R := SameButLogs) ?_ (.submit_logs _) ?_
  · intro left right hsame
    have hclients : left.withoutLogs.clients = right.withoutLogs.clients := by rw [hsame]
    exact congrArg (·.get number) hclients
  intro left right client hsame
  have hnoted : (left.note (.lookedUp app)).withoutLogs =
      (right.note (.lookedUp app)).withoutLogs := by
    rw [Deployment.withoutLogs_note rfl, Deployment.withoutLogs_note rfl, hsame]
  exact congrArg (fun deployment : Deployment => deployment.setClient number client) hnoted

end Congruent

/-- A lookup is answered alike whatever was logged before it. -/
theorem exists_lookup_of_sameButLogs {left right : Deployment} (hsame : SameButLogs left right)
    (number : Nat) (app : String) : ∃ answer first second,
      (lookup number app).exec left = (answer, first) ∧
        (lookup number app).exec right = (answer, second) ∧ SameButLogs first second := by
  obtain ⟨hanswer, hafter⟩ := Congruent.lookup_logs number app left right hsame
  exact ⟨((lookup number app).exec left).1, ((lookup number app).exec left).2,
    ((lookup number app).exec right).2, rfl, by rw [hanswer], hafter⟩

/-! ## Rounds of lookups -/

/-- Looks an application up in so many rounds, with a pause between any two of them. -/
def poll (number : Nat) (app : String) (pause : Nat) : Nat → Action (List LookupAnswer)
  | 0 => return []
  | 1 => return [← lookup number app]
  | rounds + 2 => do
    let answer ← lookup number app
    modify (·.sleep pause)
    return answer :: (← poll number app pause (rounds + 1))

section Poll

variable (number : Nat) (app : String) (pause : Nat) (deployment : Deployment)

variable {answer : LookupAnswer} {after : Deployment}

theorem exec_poll_one (hlookup : (lookup number app).exec deployment = (answer, after)) :
    (poll number app pause 1).exec deployment = ([answer], after) := by
  rw [poll, exec_bind, hlookup, exec_pure]

theorem exec_poll_succ (hlookup : (lookup number app).exec deployment = (answer, after))
    (rounds : Nat) : (poll number app pause (rounds + 2)).exec deployment =
      (answer :: ((poll number app pause (rounds + 1)).exec (after.sleep pause)).1,
        ((poll number app pause (rounds + 1)).exec (after.sleep pause)).2) := by
  rw [poll, exec_bind, hlookup]
  rfl

end Poll

/-! ## Requests in rounds -/

/-- Asks servers for an application, whatever they answer. -/
def inquire (app : String) (servers : List Transport) : Action PUnit := do
  let _ ← servers.mapM (submit (.lookup app))

/-- Asks servers in rounds, with a pause between any two of them. -/
def inquireInRounds (app : String) (pause : Nat) : List (List Transport) → Action PUnit
  | [] => return
  | [servers] => inquire app servers
  | servers :: next :: rounds => do
    inquire app servers
    modify (·.sleep pause)
    inquireInRounds app pause (next :: rounds)

variable {number : Nat} {client : RegistryClient} {deployment : Deployment}

theorem exec_inquire (app : String) (servers : List Transport) (deployment : Deployment) :
    (inquire app servers).exec deployment =
      (⟨⟩, ((servers.mapM (submit (.lookup app))).exec deployment).2) := rfl

/-- A round ends as it does if only those servers are asked that it takes. -/
theorem exists_inquire_of_round {app : String} {servers : List Transport}
    {answer : LookupAnswer} {after : Deployment}
    (hround : Failover.Round (submit (.lookup app)) servers deployment answer after) :
    ∃ asked, asked <+: servers ∧ after = ((inquire app asked).exec deployment).2 := by
  -- Both ends of a round leave behind what its last server does.
  have hlast : ∀ {asked : List Transport} {server : Transport} {errors : List ClientError}
      {between : Deployment} {given : LookupAnswer},
      Failover.Passed (submit (.lookup app)) asked deployment errors between →
        (submit (.lookup app) server).run between = (given, after) →
          after = ((inquire app (asked ++ [server])).exec deployment).2 := by
    intro asked server errors between given hpassed hanswer
    have hasked : ([server].mapM (submit (.lookup app))).run between = ([given], after) := by
      rw [List.mapM_cons, Failover.run_bind_of_eq hanswer]
      rfl
    rw [exec_inquire, exec, List.mapM_append, Failover.run_bind_of_eq hpassed.answers,
      Failover.run_bind_of_eq hasked]
    rfl
  cases hround with
  | @decided asked rest server errors between answer after hservers hpassed hanswer hdecides =>
      refine ⟨asked ++ [server], ⟨rest, ?_⟩, hlast hpassed hanswer⟩
      rw [hservers, List.append_assoc]
      rfl
  | @exhausted asked server errors between last after hservers hpassed hanswer hlastFails =>
      exact ⟨asked ++ [server], ⟨[], by rw [hservers, List.append_nil]⟩, hlast hpassed hanswer⟩

/-- A lookup asks servers from the first one on, each at most once. -/
theorem exists_inquire_of_lookup (hclient : deployment.clients.get number = .registry client)
    (app : String) : ∃ asked, asked <+: client.transports ∧
      ((lookup number app).exec deployment).2 = ((inquire app asked).exec deployment).2 := by
  have hnobody : deployment = ((inquire app []).exec deployment).2 := rfl
  cases hshutDown : client.isShutDown with
  | true =>
      rw [exec_lookup_of_isShutDown hclient hshutDown]
      exact ⟨[], List.nil_prefix, hnobody⟩
  | false =>
      rw [exec_lookup_of_live hclient hshutDown]
      split
      next =>
        by_cases hservers : client.transports = []
        · rw [hservers]
          exact ⟨[], List.nil_prefix, hnobody⟩
        · exact exists_inquire_of_round (Failover.round_failover _ hservers deployment)
      next => exact ⟨[], List.nil_prefix, hnobody⟩

theorem exec_lookup_of_scripted {scripted : ScriptedClient}
    (hclient : deployment.clients.get number = .scripted scripted) (app : String) :
    (lookup number app).exec deployment = ((nextAnswer scripted).1,
      (deployment.note (.lookedUp app)).setClient number (.scripted (nextAnswer scripted).2)) := by
  rw [lookup, exec_bind, exec_get]
  dsimp only
  rw [hclient]
  rfl

/-- Lookups leave clients of registries as they are. -/
theorem clients_lookup (hclient : deployment.clients.get number = .registry client)
    (app : String) : ((lookup number app).exec deployment).2.clients = deployment.clients := by
  cases hshutDown : client.isShutDown with
  | true => rw [exec_lookup_of_isShutDown hclient hshutDown]
  | false =>
      rw [exec_lookup_of_live hclient hshutDown]
      split
      next => exact (own_failover (.lookup app) client.transports deployment).1
      next => rfl

/-- Polling with a client that registers makes one round of requests for each lookup. -/
theorem exists_inquireInRounds_of_poll
    (hclient : deployment.clients.get number = .registry client) (app : String) (pause : Nat)
    (rounds : Nat) : ∃ asked : List (List Transport), asked.length = rounds ∧
      (∀ servers ∈ asked, servers <+: client.transports) ∧
        ((poll number app pause rounds).exec deployment).2 =
          ((inquireInRounds app pause asked).exec deployment).2 := by
  induction rounds generalizing deployment with
  | zero => exact ⟨[], rfl, by simp, rfl⟩
  | succ rounds ih =>
      obtain ⟨⟨answer, after⟩, hlookup⟩ :
        ∃ looked, (lookup number app).exec deployment = looked := ⟨_, rfl⟩
      obtain ⟨first, hfirst, hafter⟩ := exists_inquire_of_lookup hclient app
      have hclients := clients_lookup hclient app
      rw [hlookup] at hafter hclients
      dsimp only at hafter hclients
      cases rounds with
      | zero =>
          refine ⟨[first], rfl, by simpa using hfirst, ?_⟩
          rw [exec_poll_one _ _ _ _ hlookup]
          exact hafter
      | succ rounds =>
          have hstill : (after.sleep pause).clients.get number = .registry client := by
            rw [(Deployment.own_sleep _ pause).1, hclients, hclient]
          obtain ⟨asked, hlength, hasked, hrest⟩ := ih hstill
          obtain ⟨next, later, rfl⟩ := List.exists_cons_of_length_eq_add_one hlength
          refine ⟨first :: next :: later, by simp [hlength], ?_, ?_⟩
          · simpa using ⟨hfirst, by simpa using hasked⟩
          · rw [exec_poll_succ _ _ _ _ hlookup, hrest, hafter]
            rfl

end Action

end MemberDiscovery
