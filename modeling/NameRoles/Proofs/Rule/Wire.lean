import NameRoles.Proofs.Json.Depth
import NameRoles.Proofs.Uuid
import NameRoles.Rule.Wire

/-!
# Rules on the wire

A list of rules that is written as JSON is read back as it was. So is a list of tree rules, if its
arrays and objects nest no deeper than a reader goes; otherwise nothing of it is read
(`treeRules_read_back`). A group puts its children two levels deeper, so the depth of a tree
decides.
-/

namespace NameRoles

open Json

/-! ## Depths -/

namespace Json

@[simp] theorem depthItems_le_iff {items : List Json} {n : Nat} :
    depthItems items ≤ n ↔ ∀ item ∈ items, item.depth ≤ n := by
  induction items with
  | nil => simp [depthItems]
  | cons item items ih => rw [depthItems, Nat.max_le, ih, List.forall_mem_cons]

@[simp] theorem depth_array_le_iff {items : List Json} {n : Nat} :
    (array items).depth ≤ n + 1 ↔ ∀ item ∈ items, item.depth ≤ n := by
  rw [depth, Nat.add_le_add_iff_right, depthItems_le_iff]

end Json

/-! ## Lists -/

variable {α β ε : Type}

theorem mapM_map_of_ok {f : β → Except ε α} {g : α → β} {values : List α}
    (h : ∀ a ∈ values, f (g a) = .ok a) : (values.map g).mapM f = .ok values := by
  induction values with
  | nil => rfl
  | cons a values ih =>
    obtain ⟨ha, hvalues⟩ := List.forall_mem_cons.mp h
    rw [List.map_cons, List.mapM_cons, ha, ih hvalues]
    rfl

theorem mapM_map_of_error {f : β → Except ε α} {g : α → β} {error : ε} {values : List α} {a : α}
    (h : ∀ b ∈ values, f (g b) = .ok b ∨ f (g b) = .error error) (ha : a ∈ values)
    (herror : f (g a) = .error error) : (values.map g).mapM f = .error error := by
  induction values with
  | nil => cases ha
  | cons b values ih =>
    obtain ⟨hb, hvalues⟩ := List.forall_mem_cons.mp h
    rw [List.map_cons, List.mapM_cons]
    rcases List.mem_cons.mp ha with rfl | ha
    · rw [herror]
      rfl
    · rw [ih hvalues ha]
      rcases hb with hb | hb <;> rw [hb] <;> rfl

theorem Json.decodeList_ofJson (decoder : Decoder α) (items : List Json) :
    decodeList decoder (.ofJson (.array items)) = (items.map Written.ofJson).mapM decoder := by
  simp only [Written.ofJson, decodeList, Written.ofItems_eq_map]
  cases List.mapM decoder (items.map Written.ofJson) <;> rfl

theorem Json.Fields.get_eq_ok {fields : Fields} {name : String} {decoder : Decoder α}
    {value : Written} {a : α} (hfound : fields.found.lookup name = some value)
    (hvalue : decoder value = .ok a) : fields.get name decoder = .ok a := by
  simp only [get, get?, hfound, hvalue]
  rfl

/-! ## Rules -/

@[simp] theorem Uuid.decode_ofJson (id : Uuid) : decode (.ofJson id.toJson) = .ok id := by
  simp [decode, toJson, Written.ofJson, decodeText, decodeString, bind, Except.bind]

namespace Rule

@[simp] theorem plain_toJson (rule : Rule) : rule.toJson.Plain := by
  simp [toJson, Uuid.toJson]

theorem plain_array_toJson (rules : List Rule) : (Json.array (rules.map toJson)).Plain := by
  simp

/-- What is found in a written rule. -/
theorem decodeFields_ofJson (rule : Rule) : decodeFields fields (.ofJson rule.toJson) =
    .ok ⟨[("id", .ofJson rule.id.toJson), ("role_id", .ofJson rule.roleId.toJson),
      ("role_name", .string (some rule.roleName)), ("root_label", .string (some rule.rootLabel)),
      ("formula", .string (some rule.formula))], false⟩ := by
  simp [toJson, Written.ofJson, Written.ofMembers, decodeFields, Fields.ofMembers, fields, Field.of,
    decodeString, Except.map, bind, Except.bind, ifClosed]

@[simp] theorem decode_ofJson (rule : Rule) : decode (.ofJson rule.toJson) = .ok rule := by
  rw [decode, decodeFields_ofJson]
  simp [Fields.get, Fields.get?, List.lookup_cons, decodeString, Except.map, bind, Except.bind,
    pure, Except.pure]

/-- Written rules are read back. -/
@[simp] theorem decodeAll_ofJson (rules : List Rule) :
    decodeAll (.ofJson (.array (rules.map toJson))) = .ok rules := by
  rw [decodeAll, decodeList_ofJson, List.map_map]
  exact mapM_map_of_ok fun rule _ => decode_ofJson rule

end Rule

/-! ## Trees -/

namespace RuleTree

@[simp] theorem toJsons_eq_map (trees : List RuleTree) : toJsons trees = trees.map toJson := by
  induction trees with
  | nil => rfl
  | cons tree trees ih => rw [toJsons, ih, List.map_cons]

@[simp] theorem plain_toJson (tree : RuleTree) : tree.toJson.Plain := by
  induction tree using RuleTree.induction with
  | group join label children ih => simpa [toJson] using ih
  | leaf test text => simp [toJson]

@[simp] theorem depth_toJson_group (join : Join) (label : String) (children : List RuleTree) :
    (toJson (.group join label children)).depth = depthItems (children.map toJson) + 2 := by
  simp [toJson, depth, depthMembers]

@[simp] theorem depth_toJson_leaf (test : Test) (text : String) :
    (toJson (.leaf test text)).depth = 1 := by
  simp [toJson, depth, depthMembers]

theorem decodeWithin_group (isRoot : Bool) (fuel : Nat) (join : Join) (label : String)
    (children : List RuleTree) :
    decodeWithin isRoot (fuel + 1) (.ofJson (toJson (.group join label children))) =
      (decodeList (decodeWithin false fuel) (.ofJson (.array (toJsons children)))).map
        (.group join label) := by
  have hread : decodeWithin isRoot (fuel + 1) (.ofJson (toJson (.group join label children))) =
      ((decodeList (decodeWithin false fuel) (.ofJson (.array (toJsons children)))).map some).map
        fun read => .group join label (read.getD []) := by
    cases join <;> rfl
  rw [hread]
  cases decodeList (decodeWithin false fuel) (.ofJson (.array (toJsons children))) <;> rfl

@[simp] theorem decodeWithin_leaf (isRoot : Bool) (fuel : Nat) (test : Test) (text : String) :
    decodeWithin isRoot (fuel + 1) (.ofJson (toJson (.leaf test text))) =
      .ok (.leaf test text) := by
  cases test <;> rfl

/-- A written tree is read back, given as many levels as its arrays and objects have. -/
theorem decodeWithin_ofJson (tree : RuleTree) (isRoot : Bool) {fuel : Nat}
    (h : tree.toJson.depth ≤ fuel) : decodeWithin isRoot fuel (.ofJson tree.toJson) = .ok tree := by
  induction tree using RuleTree.induction generalizing isRoot fuel with
  | group join label children ih =>
    rw [depth_toJson_group] at h
    obtain ⟨fuel, rfl⟩ : ∃ n, fuel = n + 1 := ⟨fuel - 1, by omega⟩
    -- two levels of JSON are used up, but only one of the fuel
    have hdepth : depthItems (children.map toJson) ≤ fuel := by omega
    have hchildren : (children.map fun child => Written.ofJson child.toJson).mapM
        (decodeWithin false fuel) = .ok children :=
      mapM_map_of_ok fun child hchild =>
        ih child hchild false (depthItems_le_iff.mp hdepth _ (List.mem_map_of_mem hchild))
    rw [decodeWithin_group, toJsons_eq_map, decodeList_ofJson, List.map_map]
    exact congrArg (Except.map _) hchildren
  | leaf test text =>
    rw [depth_toJson_leaf] at h
    obtain ⟨fuel, rfl⟩ : ∃ n, fuel = n + 1 := ⟨fuel - 1, by omega⟩
    exact decodeWithin_leaf isRoot fuel test text

theorem decodeAt_ofJson (outside : Nat) (tree : RuleTree) :
    decodeAt outside (.ofJson tree.toJson) =
      if outside + tree.toJson.depth ≤ maxDepth then .ok tree else .error .malformed := by
  rw [decodeAt, Written.toJson?_ofJson tree.plain_toJson]
  dsimp only
  split
  next h => exact decodeWithin_ofJson tree true (by omega)
  next => rfl

end RuleTree

/-! ## Tree rules -/

namespace TreeRule

@[simp] theorem plain_toJson (rule : TreeRule) : rule.toJson.Plain := by
  simp [toJson]

theorem plain_array_toJson (rules : List TreeRule) : (Json.array (rules.map toJson)).Plain := by
  simp

theorem depth_toJson (rule : TreeRule) : rule.toJson.depth = rule.root.toJson.depth + 1 := by
  simp [toJson, depth, depthMembers]

/-- What is found in a written rule; the tree is judged while it is looked for. -/
theorem decodeFields_ofJson (rule : TreeRule) :
    decodeFields [.of "role_name" decodeString, .of "root_node" (RuleTree.decodeAt 2)]
        (.ofJson rule.toJson) =
      (RuleTree.decodeAt 2 (.ofJson rule.root.toJson)).map fun _ =>
        ⟨[("role_name", .string (some rule.roleName)), ("root_node", .ofJson rule.root.toJson)],
          false⟩ := by
  cases h : RuleTree.decodeAt 2 (.ofJson rule.root.toJson) <;>
    simp [toJson, Written.ofJson, Written.ofMembers, decodeFields, Fields.ofMembers, Field.of,
      decodeString, h, Except.map, bind, Except.bind, ifClosed]

theorem decode_ofJson (rule : TreeRule) : decode (.ofJson rule.toJson) =
    if rule.toJson.depth < maxDepth then .ok rule else .error .malformed := by
  have hroot := RuleTree.decodeAt_ofJson 2 rule.root
  rw [decode, decodeFields_ofJson, depth_toJson]
  split at hroot
  next h =>
    rw [if_pos (by omega), hroot]
    change (Fields.get _ "root_node" (RuleTree.decodeAt 2)).map (TreeRule.mk rule.roleName) = _
    rw [Fields.get_eq_ok rfl hroot]
    rfl
  next h =>
    rw [if_neg (by omega), hroot]
    rfl

theorem depth_lt_maxDepth_iff {rules : List TreeRule} :
    (Json.array (rules.map toJson)).depth ≤ maxDepth ↔
      ∀ rule ∈ rules, rule.toJson.depth < maxDepth := by
  rw [show maxDepth = 126 + 1 from rfl, depth_array_le_iff, List.forall_mem_map]
  simp only [Nat.lt_succ_iff]

/-- Written tree rules are read back if they nest no deeper than a reader goes. A single one that
does makes all of them unreadable. -/
theorem decodeAll_ofJson (rules : List TreeRule) :
    decodeAll (.ofJson (.array (rules.map toJson))) =
      if (Json.array (rules.map toJson)).depth ≤ maxDepth then .ok rules
      else .error .malformed := by
  rw [decodeAll, decodeList_ofJson, List.map_map]
  split
  next h =>
    exact mapM_map_of_ok fun rule hrule => by
      rw [Function.comp_apply, decode_ofJson, if_pos (depth_lt_maxDepth_iff.mp h rule hrule)]
  next h =>
    obtain ⟨rule, hrule, hdeep⟩ : ∃ rule ∈ rules, ¬rule.toJson.depth < maxDepth := by
      simpa using mt depth_lt_maxDepth_iff.mpr h
    refine mapM_map_of_error (fun other _ => ?_) hrule ?_
    · rw [Function.comp_apply, decode_ofJson]
      split
      · exact .inl rfl
      · exact .inr rfl
    · rw [Function.comp_apply, decode_ofJson, if_neg hdeep]

end TreeRule

/-! ## Levels -/

namespace RuleTree

mutual

/-- How many objects and arrays stand in each other in a written tree. A group is an object and, in
it, the array of its children, even if there are none; a leaf is an object. -/
def levels : RuleTree → Nat
  | .group _ _ children => levelsAll children + 2
  | .leaf _ _ => 1

def levelsAll : List RuleTree → Nat
  | [] => 0
  | tree :: trees => max (levels tree) (levelsAll trees)

end

theorem depthItems_map_toJson {trees : List RuleTree}
    (h : ∀ tree ∈ trees, tree.toJson.depth = tree.levels) :
    depthItems (trees.map toJson) = levelsAll trees := by
  induction trees with
  | nil => rfl
  | cons tree trees ih =>
    obtain ⟨htree, htrees⟩ := List.forall_mem_cons.mp h
    rw [List.map_cons, depthItems, htree, ih htrees, levelsAll]

theorem depth_toJson (tree : RuleTree) : tree.toJson.depth = tree.levels := by
  induction tree using RuleTree.induction with
  | group join label children ih => simp [depthItems_map_toJson ih, levels]
  | leaf test text => simp [levels]

end RuleTree

namespace TreeRule

/-- Around each tree stand the list and the object of its rule. -/
theorem textDepth_write (rules : List TreeRule) :
    textDepth (write (.array (rules.map toJson))) =
      (rules.map fun rule => rule.root.levels + 2).foldr max 1 := by
  rw [Json.textDepth_write (plain_array_toJson rules), depth]
  induction rules with
  | nil => rfl
  | cons rule rules ih =>
    rw [List.map_cons, List.map_cons, List.foldr_cons, ← ih, depthItems, depth_toJson,
      RuleTree.depth_toJson]
    omega

end TreeRule

/-- A written list of tree rules is read back as it was if its text nests no more than 127 arrays
and objects, and as a whole it is no JSON for the reader otherwise. The text nests as deep as the
deepest of the trees with the two levels around it. -/
theorem treeRules_read_back (rules : List TreeRule) :
    let text := write (.array (rules.map TreeRule.toJson))
    decode TreeRule.decodeAll text =
        (if textDepth text ≤ 127 then .ok rules else .error .malformed) ∧
      textDepth text = (rules.map fun rule => rule.root.levels + 2).foldr max 1 := by
  intro text
  have hplain := TreeRule.plain_array_toJson rules
  refine ⟨?_, TreeRule.textDepth_write rules⟩
  rw [decode_write hplain, TreeRule.decodeAll_ofJson, Json.textDepth_write hplain]
  rfl

end NameRoles
