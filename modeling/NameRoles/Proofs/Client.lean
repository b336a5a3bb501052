import NameRoles.Client
import NameRoles.Proofs.Cache.Classification
import NameRoles.Proofs.Rule.Depth

/-!
# Names classified through a service

A client of a service is sent the trees of the rules as one JSON text. Readers of JSON go down to a
limit, so one rule with too many groups in each other keeps the client from all of the rules.
-/

namespace NameRoles

open Json Text

/-! ## New caches -/

/-- An empty cache fetches before it classifies, and gives no roles if the fetch fails. -/
theorem Cache.classify_withTimeToLive (timeToLive : Nat) (answer : Answer) (name : String) :
    ((withTimeToLive timeToLive).classify answer name).2 =
      answer.toOption.bind fun trees => (Snapshot.compile trees).firstMatch? name := by
  have hfresh : (withTimeToLive timeToLive).fresh? = none := ite_self none
  rw [classify, ensure, hfresh]
  cases answer <;> rfl

/-! ## Clients of a service -/

namespace Client

variable {client : Client} {rules : List Rule}

/-- Below the root of a server, the path of an endpoint leads to it. -/
theorem join_path {url : Url} {path : String} (h : url.path = "/") (endpoint : Api.Endpoint)
    (hpath : "/" ++ path = endpoint.path) :
    url.join path = .ok { url with path := endpoint.path, query := none, fragment := none } := by
  have hopaque : url.hasOpaquePath = false := by
    rw [Url.hasOpaquePath, h, Bool.and_eq_false_iff]
    exact .inr (by decide +kernel)
  have hlist : path.toList = endpoint.path.toList.tail := by rw [← hpath, String.toList_append]; rfl
  have htarget (kind : Url.SchemeKind) : Url.Path.text kind (Url.Path.follow kind
      (Url.Path.withSlash (Url.Path.directory "/".toList)) path.toList) = endpoint.path := by
    rw [hlist]
    cases endpoint <;> cases kind <;> rfl
  simp only [Url.join, hopaque, h, htarget, Bool.false_eq_true, if_false]

theorem path_request {url : Url} {endpoint : Api.Endpoint} (h : url.path = endpoint.path) :
    (request url).path = endpoint.path := by
  rw [request, h]
  cases endpoint <;> decide

/-- A client at the root of a service reads the reply of the endpoint that it asks. -/
theorem fetch_toService {α : Type} (hroot : client.base.path = "/") (endpoint : Api.Endpoint)
    (haccepts : endpoint.accepts "GET" = true) (path : String)
    (hpath : "/" ++ path = endpoint.path) (decoder : Decoder α) (store : Listing (List Rule)) :
    ∃ request, client.fetch (.toService store) decoder path =
      client.read decoder (endpoint.reply store request).toResponse := by
  refine ⟨request { client.base with path := endpoint.path, query := none, fragment := none }, ?_⟩
  rw [fetch, join_path hroot endpoint hpath]
  simp only [Transport.toService]
  rw [Api.respond_of_accepts (path_request rfl) haccepts (by simp [request])]

/-- A client at the root of a service gets the trees of all rules with a valid formula, if it can
read that deep. -/
theorem listTrees_toService (hroot : client.base.path = "/") (rules : List Rule) :
    client.listTrees (.toService (.ok rules)) =
      if (Json.array ((deriveTrees rules).map TreeRule.toJson)).depth ≤ maxDepth then
        .ok (deriveTrees rules)
      else .error (.http "error decoding response body") := by
  obtain ⟨request, hfetch⟩ :=
    fetch_toService hroot .trees rfl treesPath (by decide) TreeRule.decodeAll (.ok rules)
  have hbody : (Api.Endpoint.trees.reply (.ok rules) request).toResponse =
      ⟨200, write (.array ((deriveTrees rules).map TreeRule.toJson))⟩ := rfl
  rw [listTrees, hfetch, hbody, read, if_pos (by rfl),
    decode_write (TreeRule.plain_array_toJson _), TreeRule.decodeAll_ofJson]
  by_cases h : (Json.array ((deriveTrees rules).map TreeRule.toJson)).depth ≤ maxDepth
  · rw [if_pos h, if_pos h]
  · rw [if_neg h, if_neg h]

/-- A new classifier over a client of a service gives each name the role that one over the same
rules gives it, as long as no formula has too many groups in each other. A single rule with more of
them leaves every name without a role. -/
theorem classify_over_service (hroot : client.base.path = "/") (rules : List Rule)
    (timeToLive : Nat) :
    let cache := Cache.withTimeToLive timeToLive
    let here := (RuleStore.memory rules).listTrees
    let there := client.listTrees (.toService (RuleStore.memory rules).list)
    ((∀ rule ∈ rules, Formula.groupDepth rule.formula ≤ TreeRule.maxGroupDepth) →
      there = here ∧
        ∀ name, (cache.classify there name).2 = (cache.classify here name).2) ∧
    ((∃ rule ∈ rules, TreeRule.maxGroupDepth < Formula.groupDepth rule.formula) →
      there = .error (.http "error decoding response body") ∧
        ∀ name, (cache.classify there name).2 = none) := by
  intro cache here there
  have hthere : there = if (Json.array ((deriveTrees rules).map TreeRule.toJson)).depth ≤ maxDepth
      then here else .error (.http "error decoding response body") :=
    listTrees_toService hroot rules
  constructor
  · intro hshallow
    have heq : there = here := by rw [hthere, if_pos (depth_deriveTrees_le_iff.mpr hshallow)]
    exact ⟨heq, fun name => by rw [heq]⟩
  · rintro ⟨rule, hrule, hdeep⟩
    have herror : there = .error (.http "error decoding response body") := by
      rw [hthere, if_neg fun h => ?_]
      exact absurd (depth_deriveTrees_le_iff.mp h rule hrule) (Nat.not_le.mpr hdeep)
    refine ⟨herror, fun name => ?_⟩
    rw [herror, Cache.classify_withTimeToLive]
    rfl

/-! ### Rules that do not arrive -/

/-- An identifier made of one digit. -/
def uniformId (n : Nat) : Uuid := ⟨List.replicate 32 (hexDigit n), rfl⟩

def doorRule : Rule := ⟨uniformId 1, uniformId 2, "Doors", "Root", "Door"⟩

def nestedRule (n : Nat) : Rule :=
  ⟨uniformId 3, uniformId 4, "Nested", "Root", Formula.nestedFormula n⟩

theorem groupDepth_nestedRule {n : Nat} (hn : n < Formula.maxNesting) :
    Formula.groupDepth (nestedRule n).formula = 2 * n + 2 :=
  Formula.groupDepth_nestedFormula hn

theorem isValid_nestedRule {n : Nat} (hn : n < Formula.maxNesting) :
    Formula.isValid (nestedRule n).formula = true :=
  Formula.isValid_iff_exists_parse.mpr ⟨_, Formula.parse_nestedFormula hn⟩

/-- The client of a service on the same machine. -/
def atHome : Client := ⟨⟨"http", some ⟨"", .domain "localhost", some 8080⟩, "/", none, none⟩⟩

theorem maxGroupDepth_lt_nestedRule :
    TreeRule.maxGroupDepth < Formula.groupDepth (nestedRule 31).formula := by
  rw [groupDepth_nestedRule (by decide)]
  decide

theorem classify_over_service_atHome :
    atHome.base.path = "/" ∧
      (∀ rule ∈ [doorRule, nestedRule 30],
        Formula.groupDepth rule.formula ≤ TreeRule.maxGroupDepth) ∧
      atHome.listTrees (.toService (RuleStore.memory [doorRule, nestedRule 30]).list) =
        (RuleStore.memory [doorRule, nestedRule 30]).listTrees ∧
      atHome.listTrees (.toService (RuleStore.memory [doorRule, nestedRule 31]).list) =
        .error (.http "error decoding response body") := by
  have hroot : atHome.base.path = "/" := rfl
  have hdoor : Formula.groupDepth doorRule.formula ≤ TreeRule.maxGroupDepth := by decide +kernel
  have hnested : Formula.groupDepth (nestedRule 30).formula ≤ TreeRule.maxGroupDepth :=
    (groupDepth_nestedRule (by decide)).le
  have hshallow : ∀ rule ∈ [doorRule, nestedRule 30],
      Formula.groupDepth rule.formula ≤ TreeRule.maxGroupDepth := by
    simp [hdoor, hnested]
  exact ⟨hroot, hshallow, ((classify_over_service hroot _ 0).1 hshallow).1,
    ((classify_over_service hroot _ 0).2
      ⟨nestedRule 31, by simp, maxGroupDepth_lt_nestedRule⟩).1⟩

/-- Both formulas are valid, and without a service a door is classified. Through the service none of
the rules arrives. -/
theorem valid_rule_hides_all_rules :
    let cache := Cache.withTimeToLive Cache.defaultTimeToLive
    let store := RuleStore.memory [doorRule, nestedRule 31]
    let there := atHome.listTrees (.toService store.list)
    (∀ rule ∈ [doorRule, nestedRule 31], Formula.isValid rule.formula = true) ∧
      (cache.classify store.listTrees "Door").2 = some "Doors" ∧
      there = .error (.http "error decoding response body") ∧
      (cache.classify there "Door").2 = none := by
  intro cache store there
  have hdoor : Formula.isValid doorRule.formula = true := by decide +kernel
  have hnested := isValid_nestedRule (n := 31) (by decide)
  have hhere : (cache.classify store.listTrees "Door").2 = some "Doors" := by
    obtain ⟨tree, -, htrees⟩ := deriveTrees_concat_of_valid [doorRule] hnested
    have hlist : store.listTrees = .ok (deriveTrees [doorRule] ++ [tree]) := congrArg _ htrees
    rw [hlist, Cache.classify_withTimeToLive]
    exact Snapshot.firstMatch?_compile_concat_of_eq_some (by decide +kernel)
  have hthere : there = .error (.http "error decoding response body") := by
    refine (listTrees_toService rfl _).trans (if_neg fun h => ?_)
    exact Nat.not_le.mpr maxGroupDepth_lt_nestedRule (depth_deriveTrees_le_iff.mp h _ (by simp))
  refine ⟨by simp [hdoor, hnested], hhere, hthere, ?_⟩
  rw [hthere, Cache.classify_withTimeToLive]
  rfl

end Client

end NameRoles
