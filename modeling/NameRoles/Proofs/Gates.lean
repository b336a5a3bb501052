import Mathlib.Tactic.TFAE
import NameRoles.CommandLine.Run
import NameRoles.Proofs.Rule.Depth
import NameRoles.Proofs.Rule.File

/-!
# The gates of a formula

A formula is judged at six gates: when it is validated, tried or compared with the rules at the
service, validated on the command line, served as a tree, or loaded from a file. Some of them check
it and others parse it. All of them admit the same formulas (`Admitted`) and refuse the others for
the same reason (`Refused`), as `gates_agree` says.
-/

namespace NameRoles

open Api CommandLine Http Json
open Formula hiding Request

/-! ## Requests -/

namespace Api

/-- A request posts to an endpoint a body that is no longer than the service takes and from which
the endpoint reads a value. -/
structure Posts {α : Type} (request : Request) (endpoint : Endpoint) (decoder : Decoder α)
    (value : α) : Prop where
  method_eq : request.method = "POST"
  path_eq : request.path = endpoint.path
  hasJson : request.hasJson = true
  size_le : request.body.utf8ByteSize ≤ bodyLimit
  decode_eq : Json.decode decoder request.body = .ok value

variable {α : Type} {request : Request} {endpoint : Endpoint} {decoder : Decoder α} {value : α}

theorem Posts.withBody_eq (h : Posts request endpoint decoder value) (reply : α → Reply) :
    withBody request decoder reply = reply value := by
  simp [withBody, h.hasJson, h.decode_eq, Nat.not_lt.mpr h.size_le]

theorem Posts.respond_eq (h : Posts request endpoint decoder value)
    (haccepts : endpoint.accepts "POST" = true) (store : Listing (List Rule)) :
    respond store request = endpoint.reply store request := by
  refine respond_of_accepts h.path_eq ?_ ?_ store
  · rwa [h.method_eq]
  · simp [h.method_eq]

/-- The member of a name, if the reply is an object. -/
def Reply.field? (reply : Reply) (name : String) : Option Json :=
  match reply.body with
  | some (.object members) => members.lookup name
  | _ => none

end Api

/-! ## What a gate says -/

variable {F : String} {cause : Formula.Error}

theorem Formula.parse_eq_error_iff : parse F = .error cause ↔ check F = .error cause :=
  parseTokens_eq_error_iff

theorem Formula.exists_parse_of_check (h : check F = .ok ()) : ∃ e, parse F = .ok e :=
  exists_parseTokens_iff.mpr h

/-- What a trial of an admitted formula finds of a name. -/
def Api.Trial.result (F name : String) : Json :=
  .object [("name", .string name), ("matched", .bool (evaluate F name))]

/-- Every gate lets the formula pass. The trial answers for each name whether the formula holds
of it. -/
structure Admitted (F : String) : Prop where
  validation : validationReply F = .ok (.object [("valid", .bool true)])
  trial : ∀ names, Trial.reply ⟨F, names⟩ = .ok (.object
    [("valid", .bool true), ("results", .array (names.map (Trial.result F)))])
  conflicts : ∀ rules excluded, (ConflictQuery.reply ⟨some F, excluded⟩ rules).status = 200
  command : ∀ settings world, Command.run settings world (.validate F) = .done ["valid"]
  served : ∀ rule : Rule, rule.formula = F → ∃ tree, rule.toTree = .ok tree
  loaded : ∀ record : Record, record.formula = F → rulesOfRecords [record] = .ok [record.toRule]

/-- Every gate refuses the formula, and each that gives a reason gives this one. -/
structure Refused (F reason : String) : Prop where
  validation : validationReply F =
    .ok (.object [("valid", .bool false), ("reason", .string reason)])
  trial : ∀ names, Trial.reply ⟨F, names⟩ = .ok (.object
    [("valid", .bool false), ("reason", .string reason), ("results", .array [])])
  conflicts : ∀ rules excluded, ConflictQuery.reply ⟨some F, excluded⟩ rules =
    .fault 422 ("Invalid formula: " ++ reason)
  command : ∀ settings world, Command.run settings world (.validate F) =
    .exit 1 ("invalid: " ++ reason ++ "\n") ""
  served : ∀ rule : Rule, rule.formula = F →
    ∃ cause, rule.toTree = .error cause ∧ cause.message = reason
  loaded : ∀ record : Record, record.formula = F →
    ∃ fault, rulesOfRecords [record] = .error fault ∧ fault.message =
      "rule for role '" ++ record.roleName ++ "' has an invalid formula: " ++ reason

theorem admitted_of_check (h : check F = .ok ()) : Admitted F := by
  obtain ⟨e, he⟩ := exists_parse_of_check h
  have hevaluate (name : String) : evaluate F name = e.matchesName name := by rw [evaluate, he]
  constructor
  case validation => simp [validationReply, verdict, h]
  case trial =>
    intro names
    have hresults : Trial.results ⟨F, names⟩ = names.map (Trial.result F) := by
      rw [Trial.results, he]
      exact List.map_congr_left fun name _ => by rw [Trial.result, hevaluate]
    simp [Trial.reply, hresults, verdict, h]
  case conflicts =>
    intro rules excluded
    simp [ConflictQuery.reply, h, Reply.ok]
  case command =>
    intro settings world
    simp [Command.run, CommandLine.validate, h]
  case served =>
    rintro rule rfl
    exact ⟨_, Rule.toTree_of_parse_ok he⟩
  case loaded =>
    rintro record rfl
    have hvalid : isValid record.toRule.formula = true := isValid_iff.mpr h
    exact rulesOfRecords_eq_ok_iff.mpr ⟨rfl, List.pairwise_singleton _ _, by simpa using hvalid⟩

theorem refused_of_check (h : check F = .error cause) : Refused F cause.message := by
  have hparse : parse F = .error cause := parse_eq_error_iff.mpr h
  constructor
  case validation => simp [validationReply, verdict, h]
  case trial =>
    intro names
    simp [Trial.reply, Trial.results, verdict, h, hparse]
  case conflicts =>
    intro rules excluded
    simp only [ConflictQuery.reply, h]
    rfl
  case command =>
    intro settings world
    simp only [Command.run, CommandLine.validate, h]
    rfl
  case served =>
    rintro rule rfl
    exact ⟨cause, Rule.toTree_of_parse_error hparse, rfl⟩
  case loaded =>
    rintro record rfl
    refine ⟨.illFormed record.roleName cause, ?_, rfl⟩
    have hbehind : record.toRule.checkBehind [] = .error (.illFormed record.roleName cause) := by
      simp [Rule.checkBehind, Record.toRule, h]
    rw [rulesOfRecords, List.map_singleton, checkRulesBehind, hbehind]
    rfl

/-! ## Agreement -/

/-- What is posted to the service, or read from a file, is what the gates judge. -/
structure Reached (F : String) : Prop where
  validation : ∀ store request, Posts request .validation decodeFormula F →
    respond store request = validationReply F
  trial : ∀ store request names, Posts request .trial Trial.decode ⟨F, names⟩ →
    respond store request = Trial.reply ⟨F, names⟩
  conflicts : ∀ rules request excluded,
    Posts request .conflicts ConflictQuery.decode ⟨some F, excluded⟩ →
    respond (.ok rules) request = ConflictQuery.reply ⟨some F, excluded⟩ rules
  loaded : ∀ text records, readRecords? text = some records →
    parseRuleFile text = (rulesOfRecords records).mapError fun fault => .store fault.message

theorem reached (F : String) : Reached F := by
  constructor
  case validation =>
    intro store request h
    exact (h.respond_eq rfl store).trans (h.withBody_eq _)
  case trial =>
    intro store request names h
    exact (h.respond_eq rfl store).trans (h.withBody_eq _)
  case conflicts =>
    intro rules request excluded h
    exact (h.respond_eq rfl (.ok rules)).trans (h.withBody_eq _)
  case loaded => exact fun _ _ => parseRuleFile_eq

/-- A rule is among those served as trees just if its formula passes the check. -/
theorem exists_deriveTrees_eq_iff {rule : Rule} {front back : List Rule} :
    (∃ tree : TreeRule, tree.Represents rule ∧
      deriveTrees (front ++ rule :: back) = deriveTrees front ++ tree :: deriveTrees back) ↔
    check rule.formula = .ok () := by
  have happend : deriveTrees (front ++ rule :: back) =
      deriveTrees front ++ deriveTrees (rule :: back) := List.filterMap_append
  rw [happend]
  constructor
  · rintro ⟨tree, -, htrees⟩
    apply isValid_iff.mp
    by_contra hinvalid
    obtain ⟨cause, hcause⟩ := Rule.toTree_eq_error (Bool.eq_false_iff.mpr hinvalid)
    -- without a tree of the rule the list is one too short
    rw [deriveTrees_cons_of_error hcause] at htrees
    simpa using congrArg List.length htrees
  · intro h
    obtain ⟨tree, htree, hrepresents⟩ := Rule.exists_toTree (isValid_iff.mpr h)
    exact ⟨tree, hrepresents, by rw [deriveTrees_cons_of_ok htree]⟩

/-- The gates admit the same formulas, wherever the formula comes from: either all of them let it
pass, or all of them refuse it for the reason that the check has. -/
theorem gates_agree (F : String) :
    Reached F ∧
    (∀ (rules front back : List Rule) (excluded : Option Uuid) (settings : Settings) (world : World)
      (rule : Rule) (record : Record), rule.formula = F → record.formula = F → List.TFAE [
        check F = .ok (),
        (validationReply F).field? "valid" = some (.bool true),
        ∀ names, (Trial.reply ⟨F, names⟩).field? "valid" = some (.bool true),
        (ConflictQuery.reply ⟨some F, excluded⟩ rules).status ≠ 422,
        Command.run settings world (.validate F) = .done ["valid"],
        ∃ tree : TreeRule, tree.Represents rule ∧
          deriveTrees (front ++ rule :: back) = deriveTrees front ++ tree :: deriveTrees back,
        ∃ loaded, rulesOfRecords [record] = .ok loaded]) ∧
    (check F = .ok () → Admitted F) ∧
    ∀ cause, check F = .error cause → Refused F cause.message := by
  refine ⟨reached F, ?_, admitted_of_check, fun cause => refused_of_check⟩
  intro rules front back excluded settings world rule record hrule hrecord
  rw [exists_deriveTrees_eq_iff, hrule]
  cases h : check F with
  | ok =>
    have hadmitted := admitted_of_check h
    apply List.tfae_of_forall True
    simp [hadmitted.validation, hadmitted.trial, hadmitted.conflicts, hadmitted.command,
      hadmitted.loaded record hrecord, Reply.field?, Reply.ok]
  | error cause =>
    have hrefused := refused_of_check h
    obtain ⟨fault, hloaded, -⟩ := hrefused.loaded record hrecord
    apply List.tfae_of_forall False
    simp [hrefused.validation, hrefused.trial, hrefused.conflicts, hrefused.command, hloaded,
      Reply.field?, Reply.ok, Reply.fault, Outcome.done]

/-- A trial at the service tells of a dangling operator in the words in which a file that has the
formula is refused. -/
theorem gates_agree_on_dangling :
    let request : Http.Request := {
      method := "POST", target := "/api/rules/test", contentType := some "application/json"
      body := "\x7b\"formula\":\"Door AND\",\"names\":[\"Door\"]\x7d" }
    let text := "rules:\n- role_name: Doors\n  formula: Door AND\n"
    let record : Record := ⟨none, none, "Doors", none, "Door AND"⟩
    Posts request .trial Trial.decode ⟨"Door AND", ["Door"]⟩ ∧
      readRecords? text = some [record] ∧
      check "Door AND" = .error .danglingOperator ∧
      respond (.ok []) request = .ok (.object [("valid", .bool false),
        ("reason", .string "formula ends with a dangling operator"), ("results", .array [])]) ∧
      parseRuleFile text = (rulesOfRecords [record]).mapError (fun fault => .store fault.message) ∧
      ¬ ∃ rules, rulesOfRecords [record] = .ok rules := by
  intro request text record
  have hposts : Posts request .trial Trial.decode ⟨"Door AND", ["Door"]⟩ :=
    ⟨rfl, by decide +kernel, by decide +kernel, by decide +kernel, by decide +kernel⟩
  have htext : readRecords? text = some [record] := by decide +kernel
  have hcheck : check "Door AND" = .error .danglingOperator := by decide +kernel
  obtain ⟨hreached, hagree, -, hrefused⟩ := gates_agree "Door AND"
  have hreply := (hrefused _ hcheck).trial ["Door"]
  have hiff : check "Door AND" = .ok () ↔ ∃ rules, rulesOfRecords [record] = .ok rules :=
    (hagree [] [] [] none {} ⟨fun _ => .error .missing, .toService (.ok []), fun _ => none⟩
      record.toRule record rfl rfl).out 0 6
  refine ⟨hposts, htext, hcheck, (hreached.trial _ _ _ hposts).trans hreply,
    hreached.loaded _ _ htext, fun hloaded => ?_⟩
  have hok := hiff.mpr hloaded
  simp [hcheck] at hok

end NameRoles
