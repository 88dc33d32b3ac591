import Mathlib.Control.Monad.Basic
import MemberDiscovery.Client.Failover

/-! # Rounds of requests

With failover, servers are asked in order and none of them twice. The next one is asked only after
an error that is not fatal, so a round ends with the first other answer or with the last server
(`Failover.Round`). It is shown for servers that answer in any way, also depending on what they were
asked before: what they know is a state that every question may read and change.
-/

namespace MemberDiscovery

namespace Failover

variable {σ Server α : Type}

/-- What an action does after its first part is what it does with the result of this part. -/
theorem run_bind_of_eq {β γ : Type} {first : StateM σ β} {next : β → StateM σ γ} {before after : σ}
    {value : β} (hfirst : first.run before = (value, after)) :
    (first >>= next).run before = (next value).run after := by
  change (next (first.run before).1).run (first.run before).2 = _
  rw [hfirst]

/-- An answer after which no other server is asked. -/
def Decides (answer : Except ClientError α) : Prop :=
  ∀ error, answer = .error error → error.isFatal = true

/-- Servers were asked one after the other, and each gave an error that is not fatal. -/
structure Passed (ask : Server → StateM σ (Except ClientError α)) (asked : List Server)
    (before : σ) (errors : List ClientError) (after : σ) : Prop where
  answers : (asked.mapM ask).run before = (errors.map .error, after)
  transient : ∀ error ∈ errors, error.isFatal = false

/-- How a round may end, with its answer and the state after it. Only the servers that are named
were asked. -/
inductive Round (ask : Server → StateM σ (Except ClientError α)) (servers : List Server)
    (before : σ) : Except ClientError α → σ → Prop where
  /-- The answer of the round is the first one that decides. -/
  | decided {asked rest : List Server} {server : Server} {errors : List ClientError} {between : σ}
      {answer : Except ClientError α} {after : σ} (hservers : servers = asked ++ server :: rest)
      (hpassed : Passed ask asked before errors between)
      (hanswer : (ask server).run between = (answer, after)) (hdecides : Decides answer) :
      Round ask servers before answer after
  /-- The last server could not help either. -/
  | exhausted {asked : List Server} {server : Server} {errors : List ClientError} {between : σ}
      {last : ClientError} {after : σ} (hservers : servers = asked ++ [server])
      (hpassed : Passed ask asked before errors between)
      (hanswer : (ask server).run between = (.error last, after))
      (hlast : last.isFatal = false) :
      Round ask servers before (.error (.allServersFailed servers.length last)) after

variable {ask : Server → StateM σ (Except ClientError α)} {servers asked : List Server}
  {before between after : σ} {errors : List ClientError}

theorem Passed.nil (ask : Server → StateM σ (Except ClientError α)) (before : σ) :
    Passed ask [] before [] before where
  answers := rfl
  transient := by simp

theorem Passed.concat (hpassed : Passed ask asked before errors between) {server : Server}
    {error : ClientError} (hanswer : (ask server).run between = (.error error, after))
    (herror : error.isFatal = false) :
    Passed ask (asked ++ [server]) before (errors ++ [error]) after where
  answers := by
    have hserver : ([server].mapM ask).run between = ([.error error], after) := by
      rw [List.mapM_cons, run_bind_of_eq hanswer]
      rfl
    rw [List.mapM_append, run_bind_of_eq hpassed.answers, run_bind_of_eq hserver, List.map_append]
    rfl
  transient := by
    intro other hother
    rcases List.mem_append.mp hother with hearlier | hlater
    · exact hpassed.transient other hearlier
    · rw [List.mem_singleton.mp hlater]
      exact herror

/-- A server that is asked ends the round, or leaves it to the servers after it. -/
theorem round_askRest_cons {server : Server} {rest : List Server}
    (hservers : servers = asked ++ server :: rest)
    (hpassed : Passed ask asked before errors between)
    (hrest : ∀ error after, (ask server).run between = (.error error, after) →
      error.isFatal = false →
        Round ask servers before ((askRest ask (asked.length + 1) (some error) rest).run after).1
          ((askRest ask (asked.length + 1) (some error) rest).run after).2)
    (last : Option ClientError) :
    Round ask servers before ((askRest ask asked.length last (server :: rest)).run between).1
      ((askRest ask asked.length last (server :: rest)).run between).2 := by
  obtain ⟨⟨answer, after⟩, hanswer⟩ : ∃ result, (ask server).run between = result := ⟨_, rfl⟩
  rw [askRest, run_bind_of_eq hanswer]
  cases answer with
  | ok answer => exact .decided hservers hpassed hanswer fun error herror => by cases herror
  | error error =>
      dsimp only
      split
      next hfatal =>
        refine .decided hservers hpassed hanswer ?_
        intro other hother
        cases hother
        exact hfatal
      next htransient => exact hrest error after hanswer (by simpa using htransient)

theorem round_askRest {server : Server} {rest : List Server}
    (hservers : servers = asked ++ server :: rest)
    (hpassed : Passed ask asked before errors between) (last : Option ClientError) :
    Round ask servers before ((askRest ask asked.length last (server :: rest)).run between).1
      ((askRest ask asked.length last (server :: rest)).run between).2 := by
  induction rest generalizing asked server errors between last with
  | nil =>
      refine round_askRest_cons hservers hpassed ?_ last
      intro error after hanswer htransient
      have hlength : asked.length + 1 = servers.length := by simp [hservers]
      rw [askRest, hlength]
      exact .exhausted hservers hpassed hanswer htransient
  | cons next rest ih =>
      refine round_askRest_cons hservers hpassed ?_ last
      intro error after hanswer htransient
      have hsplit : servers = (asked ++ [server]) ++ next :: rest := by simp [hservers]
      have hnext := ih hsplit (hpassed.concat hanswer htransient) (some error)
      rwa [List.length_append] at hnext

/-- Failover over at least one server is a round. -/
theorem round_failover (ask : Server → StateM σ (Except ClientError α)) (hservers : servers ≠ [])
    (before : σ) :
    Round ask servers before ((failover ask servers).run before).1
      ((failover ask servers).run before).2 := by
  obtain ⟨first, rest, rfl⟩ := List.exists_cons_of_ne_nil hservers
  exact round_askRest (List.nil_append _).symm (.nil ask before) none

/-- An error of a round is a fatal one that a server gave, or it says that all servers failed, the
last of them with an error that is not fatal. -/
theorem Round.error_cases {error : ClientError}
    (hround : Round ask servers before (.error error) after) :
    (error.isFatal = true ∧ ∃ asked server rest between, servers = asked ++ server :: rest ∧
      ((asked.mapM ask).run before).2 = between ∧
        (ask server).run between = (.error error, after)) ∨
    ∃ last, error = .allServersFailed servers.length last ∧ last.isFatal = false := by
  cases hround with
  | decided hservers hpassed hanswer hdecides =>
      exact .inl ⟨hdecides error rfl, _, _, _, _, hservers, by rw [hpassed.answers], hanswer⟩
  | exhausted hservers hpassed hanswer hlast => exact .inr ⟨_, rfl, hlast⟩

end Failover

end MemberDiscovery
