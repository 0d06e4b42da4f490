import LedgerRehearsal.Ledger.Remote
import LedgerRehearsal.Text.Occurrence
import LedgerRehearsal.World

/-!
A scripted server. The first rule that applies to a request answers it, and some rules apply only a
number of times. Every request is kept.
-/

namespace LedgerRehearsal

inductive ServerAction where
  | respond (response : HttpResponse)
  /-- The connection is closed without a response. -/
  | drop
deriving DecidableEq, Repr

/-- When a rule applies: every condition that is given has to hold. -/
structure ServerRule where
  method : Option String
  target : Option String
  /-- How the target begins. -/
  targetStart : Option String
  /-- What stands in the body. -/
  includes : Option String
  /-- How often the rule may still be used. -/
  uses : Option Nat
  action : ServerAction
deriving DecidableEq, Repr

def ServerRule.applies (rule : ServerRule) (delivery : Delivery) : Bool :=
  rule.method.all (· = delivery.method.text)
    && rule.target.all (· = delivery.url.target)
    && rule.targetStart.all (fun start => start.toList.isPrefixOf delivery.url.target.toList)
    && rule.includes.all (fun part => Text.includes part.toList delivery.body.toList)
    && rule.uses.all (0 < ·)

structure ScriptedServer where
  authority : String
  rules : List ServerRule
  deliveries : List Delivery
deriving DecidableEq, Repr

namespace ScriptedServer

variable [Diagnostics]

/-- The action of the first rule that applies, and the rules after this use. -/
def act (delivery : Delivery) : List ServerRule → ServerAction × List ServerRule
  | [] => (.respond ⟨404, "no route"⟩, [])
  | rule :: rest =>
    if rule.applies delivery then (rule.action, { rule with uses := rule.uses.map (· - 1) } :: rest)
    else
      let (action, rest) := act delivery rest
      (action, rule :: rest)

/-- What is said of a request that gets no response. -/
def transportReport : String := "<transport>"

/-- What arrives of a response: some have no body whatever is written, and an interim one is none. -/
def arrived (response : HttpResponse) : Except String HttpResponse :=
  if [101, 204, 304].contains response.status then .ok { response with body := "" }
  else if response.status < 200 then .error transportReport
  else .ok response

/-- Only what is addressed to the server reaches it. -/
def exchange (delivery : Delivery) : StateM ScriptedServer (Except String HttpResponse) := fun server =>
  if delivery.url.scheme = "http" ∧ delivery.url.authority = server.authority then
    let (action, rules) := act delivery server.rules
    let server := { server with rules, deliveries := server.deliveries ++ [delivery] }
    match action with
    | .respond response => (arrived response, server)
    | .drop => (.error transportReport, server)
  else (.error transportReport, server)

/-- A suffix of 32 digits, with the number at the end. -/
def suffix (n : Nat) : String := String.ofList ((Nat.toDigits 16 n).leftpad 32 '0')

/-- A ledger on the server as the surroundings of a run. -/
def surroundings (ledger : RemoteLedger) : Surroundings ScriptedServer :=
  { reply := fun request server => StateT.run (ledger.reply exchange request) server
    remarks := ledger.remarks
    suffix }

end ScriptedServer

end LedgerRehearsal
