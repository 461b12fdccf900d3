import Mathlib.Data.List.Basic
import LayeredConfig.Proofs.Answers
import LayeredConfig.World

namespace LayeredConfig

namespace Environment

open Text

def isKeyChar (c : Char) : Bool := c.isLower || c.isDigit || c == '-'

theorem isKeyChar_toUpper {c : Char} (h : isKeyChar c = true) :
    c.toUpper.toLower = c ∧ c.toUpper.toNat < 128 := by
  have hlower : c.isLower = (decide (c.val ≥ 97) && decide (c.val ≤ 122)) := rfl
  have hascii : c.toNat < 128 := by
    simp only [isKeyChar, hlower, Char.isDigit, Bool.or_eq_true, Bool.and_eq_true,
      decide_eq_true_eq, beq_iff_eq, ge_iff_le, UInt32.le_iff_toNat_le] at h
    rcases h with (⟨-, h⟩ | ⟨-, h⟩) | rfl
    · exact Nat.lt_of_le_of_lt h (by decide)
    · exact Nat.lt_of_le_of_lt h (by decide)
    · decide
  have hall : ∀ n < 128, isKeyChar (Char.ofNat n) = true →
      (Char.ofNat n).toUpper.toLower = Char.ofNat n ∧ (Char.ofNat n).toUpper.toNat < 128 := by
    decide
  have hc := hall c.toNat hascii
  rw [Char.ofNat_toNat] at hc
  exact hc h

/-- A key that a variable stands for: no part is empty, the parts are spelled with small letters,
digits and dashes, and in capital letters they share no character with the separator. -/
structure HasVariable (separator key : String) : Prop where
  nonempty : ∀ part ∈ splitAt '.' key.toList, part ≠ []
  chars : ∀ part ∈ splitAt '.' key.toList, ∀ c ∈ part, isKeyChar c = true
  apart : ∀ part ∈ splitAt '.' key.toList, ∀ c ∈ part, c.toUpper ∉ separator.toList

instance (separator key : String) : Decidable (HasVariable separator key) :=
  decidable_of_iff ((splitAt '.' key.toList).all (fun part => !part.isEmpty && part.all (fun c =>
      isKeyChar c && !separator.toList.contains c.toUpper)) = true) (by
    simp only [List.all_eq_true, Bool.and_eq_true, Bool.not_eq_true', List.isEmpty_eq_false_iff,
      List.contains_eq_mem, decide_eq_false_iff_not]
    constructor
    · exact fun h => ⟨fun part hp => (h part hp).1, fun part hp c hc => ((h part hp).2 c hc).1,
        fun part hp c hc => ((h part hp).2 c hc).2⟩
    · exact fun h part hp => ⟨h.nonempty part hp,
        fun c hc => ⟨h.chars part hp c hc, h.apart part hp c hc⟩⟩)

def capitals (key : String) : List (List Char) :=
  (splitAt '.' key.toList).map (List.map Char.toUpper)

def variableOf (lead separator key : String) : String :=
  (if lead = "" then "" else lead ++ separator) ++
    separator.intercalate ((capitals key).map String.ofList)

theorem toList_variableOf (lead separator key : String) : (variableOf lead separator key).toList =
    (if lead = "" then [] else lead.toList ++ separator.toList) ++
      joinWith separator.toList (capitals key) := by
  rw [variableOf, String.toList_append, String.toList_intercalate, joinWith_eq_intercalate,
    List.map_map]
  congr 1
  · split <;> simp
  · simp [Function.comp_def]

theorem afterLead?_variableOf (lead separator key : String) :
    afterLead? lead.toList separator.toList (variableOf lead separator key).toList =
      some (joinWith separator.toList (capitals key)) := by
  rw [toList_variableOf, afterLead?]
  by_cases hlead : lead = ""
  · rw [if_pos (by simpa using hlead), if_pos hlead, List.nil_append]
  · rw [if_neg (by simpa using hlead), if_neg hlead, List.append_assoc,
      stripStart?_eq_some_iff.mpr rfl, Option.bind_some, stripStart?_eq_some_iff.mpr rfl]

namespace HasVariable

variable {separator key : String}

theorem capitals_apart (h : HasVariable separator key) :
    ∀ part ∈ capitals key, ∀ c ∈ part, c ∉ separator.toList := by
  simp only [capitals, List.forall_mem_map]
  exact h.apart

theorem exists_head (h : HasVariable separator key) : ∃ c tail, c ∉ separator.toList ∧
    joinWith separator.toList (capitals key) = c :: tail := by
  -- The variable does not go on with another separator after the lead.
  obtain ⟨part, rest, hparts⟩ := List.exists_cons_of_ne_nil (splitAt_ne_nil '.' key.toList)
  have hpart : part ∈ splitAt '.' key.toList := hparts ▸ List.mem_cons_self
  obtain ⟨c, cs, rfl⟩ := List.exists_cons_of_ne_nil (h.nonempty part hpart)
  obtain ⟨tail, htail⟩ := exists_joinWith_cons separator.toList c.toUpper
    (cs.map Char.toUpper) (rest.map (List.map Char.toUpper))
  refine ⟨c.toUpper, tail, h.apart _ hpart c List.mem_cons_self, ?_⟩
  rw [capitals, hparts]
  exact htail

theorem lowercase_capitals (h : HasVariable separator key) :
    lowercase (joinWith ['.'] (capitals key)) = key.toList := by
  have hascii : ∀ c ∈ joinWith ['.'] (capitals key), c.toNat < 128 := by
    intro c hc
    rcases mem_joinWith hc with hdot | ⟨_, hcapital, hc⟩
    · obtain rfl := List.mem_singleton.mp hdot
      decide
    · obtain ⟨part, hpart, rfl⟩ := List.mem_map.mp hcapital
      obtain ⟨d, hd, rfl⟩ := List.mem_map.mp hc
      exact (isKeyChar_toUpper (h.chars part hpart d hd)).2
  have hpart : ∀ part ∈ splitAt '.' key.toList,
      (part.map Char.toUpper).map Char.toLower = part := by
    intro part hpart
    rw [List.map_map]
    refine (List.map_congr_left fun c hc => ?_).trans (List.map_id' part)
    exact (isKeyChar_toUpper (h.chars part hpart c hc)).1
  have hlower : (capitals key).map (List.map Char.toLower) = splitAt '.' key.toList := by
    rw [capitals, List.map_map]
    exact (List.map_congr_left hpart).trans (List.map_id' _)
  rw [lowercase_ascii hascii, map_joinWith, hlower]
  exact joinWith_splitAt '.' key.toList

end HasVariable

theorem key?_variableOf {separator key : String} (hsep : separator ≠ "")
    (h : HasVariable separator key) (lead : String) :
    key? lead separator (variableOf lead separator key) = some key := by
  have hchars : separator.toList ≠ [] := by simpa using hsep
  obtain ⟨c, tail, hc, hbody⟩ := h.exists_head
  have hkept : dropRepeated separator.toList (joinWith separator.toList (capitals key)) =
      joinWith separator.toList (capitals key) := by
    rw [hbody, dropRepeated_of_not_mem hc]
  have hne : joinWith separator.toList (capitals key) ≠ [] := by
    rw [hbody]
    exact List.cons_ne_nil c tail
  rw [key?, keyChars?, afterLead?_variableOf, Option.bind_some, hkept]
  simp only [if_neg hne]
  rw [replaceSeparator_joinWith hchars h.capitals_apart, h.lowercase_capitals, Option.map_some,
    String.ofList_toList]

theorem key?_eq_none {lead separator name : String} (hlead : lead ≠ "")
    (h : ¬(lead ++ separator).toList <+: name.toList) : key? lead separator name = none := by
  have hrest : afterLead? lead.toList separator.toList name.toList = none := by
    rw [afterLead?, if_neg (by simpa using hlead), Option.bind_eq_none_iff]
    intro rest hrest
    rw [Option.eq_none_iff_forall_ne_some]
    intro body hbody
    rw [stripStart?_eq_some_iff] at hrest hbody
    apply h
    rw [hrest, hbody, String.toList_append, ← List.append_assoc]
    exact List.prefix_append _ body
  rw [key?, keyChars?, hrest, Option.bind_none, Option.map_none]

theorem load_eq_mapValues {lead separator : String} (hsep : separator ≠ "") {m : Table String}
    (hm : ∀ key ∈ m.keys, HasVariable separator key) {others assigned : List (String × String)}
    (hothers : ∀ e ∈ others, key? lead separator e.1 = none)
    (h : assigned.Perm
      (m.entries.map (fun e => (variableOf lead separator e.1, e.2)) ++ others)) :
    load lead separator assigned =
      m.mapValues (fun key value => (variableOf lead separator key, value)) := by
  let entry (e : String × String) : Option (String × (String × String)) :=
    (key? lead separator e.1).map (fun key => (key, e))
  have hown : (m.entries.map (fun e => (variableOf lead separator e.1, e.2))).filterMap entry =
      (m.mapValues (fun key value => (variableOf lead separator key, value))).entries := by
    rw [List.filterMap_map]
    refine (List.filterMap_congr fun e he => ?_).trans (congrFun List.filterMap_eq_map _)
    have hkey : e.1 ∈ m.keys := List.mem_map_of_mem he
    simp [entry, key?_variableOf hsep (hm e.1 hkey)]
  have hnone : others.filterMap entry = [] := by
    rw [List.filterMap_eq_nil_iff]
    intro e he
    simp [entry, hothers e he]
  have hperm := h.filterMap entry
  rw [List.filterMap_append, hown, hnone, List.append_nil] at hperm
  rw [← Table.ofList_entries (m.mapValues _)]
  refine Table.ofList_eq_of_perm ?_ hperm
  intro key v w hv hw
  rw [Table.mem_entries_iff] at hv hw
  exact Option.some.inj (hv.symm.trans hw)

end Environment

namespace World

open Environment

theorem run_environmentOf (lead separator : String) (assigned : List (String × String))
    (ordinal : Option Int) (name : Option String) (w : World) :
    let made := StateT.run (environmentOf lead separator assigned ordinal name) w
    made.1.2 = Source.environment w.nextId (name.getD (defaultName lead)) lead separator
        (ordinal.getD defaultOrdinal) made.1.1 ∧
      made.2.store.variablesOf made.1.1 = load lead separator assigned := by
  refine ⟨rfl, ?_⟩
  change (w.store.environments ++ [load lead separator assigned]).getD
    w.store.environments.length .empty = _
  simp

/-- The source of an environment holds what is assigned to the variables of keys, under these keys
and with these variables, in whatever order they come and among whatever names without the lead. -/
theorem environmentOf_decodes {lead separator : String} (hsep : separator ≠ "")
    {m : Table String} (hm : ∀ key ∈ m.keys, HasVariable separator key)
    {others assigned : List (String × String)}
    (hothers : ∀ e ∈ others, lead ≠ "" ∧ ¬(lead ++ separator).toList <+: e.1.toList)
    (h : assigned.Perm
      (m.entries.map (fun e => (variableOf lead separator e.1, e.2)) ++ others))
    (ordinal : Option Int) (name : Option String) (w : World) (filters : List ListedFilter) :
    let made := StateT.run (environmentOf lead separator assigned ordinal name) w
    let source := made.1.2
    let mo : Moment := ⟨made.2.store, filters⟩
    ∃ all, source.properties.Gives mo all ∧ all.keys = m.keys ∧
      (∀ key value, m.get? key = some value → ∃ p, all.get? key = some p ∧
        p.key = key ∧ p.value = some value ∧
          p.metadata.get? "env_var" = some (variableOf lead separator key)) ∧
      ∀ key, (source.get key).Gives mo (all.get? key) := by
  intro made source mo
  obtain ⟨hsource, hcell⟩ := run_environmentOf lead separator assigned ordinal name w
  have hnone : ∀ e ∈ others, key? lead separator e.1 = none :=
    fun e he => key?_eq_none (hothers e he).1 (hothers e he).2
  have hvariables : mo.store.variablesOf made.1.1 =
      m.mapValues (fun key value => (variableOf lead separator key, value)) :=
    hcell.trans (load_eq_mapValues hsep hm hnone h)
  have htabled := Source.environment_tabled (m := mo) w.nextId (name.getD (defaultName lead)) lead
    separator (ordinal.getD defaultOrdinal) made.1.1
  rw [hvariables, ← hsource] at htabled
  refine ⟨_, htabled.2, ?_, fun key value hvalue => ?_, htabled.1⟩
  · simp [Table.keys, Table.mapValues, Function.comp_def]
  · rw [Table.get?_mapValues, Table.get?_mapValues, hvalue]
    exact ⟨_, rfl, rfl, rfl, by simp [Property.withMetadata, Table.get?_insert]⟩

theorem environmentOf_decodes_app :
    let assigned := [("APPLE_PIE", "no"), ("APP_SERVER_PORT", "8080"), ("OTHER", "x"),
      ("APP_NAME", "demo")]
    let made := StateT.run (environmentOf "APP" "_" assigned none none) (World.new ⟨0, 0⟩)
    let bare := StateT.run (environmentOf "" "__" [("DB__POOL-SIZE", "4")] none none)
      (World.new ⟨0, 0⟩)
    (∃ all, made.1.2.properties.Gives ⟨made.2.store, []⟩ all ∧
      all.keys = ["name", "server.port"] ∧ ∃ p, all.get? "server.port" = some p ∧
        p.value = some "8080" ∧ p.metadata.get? "env_var" = some "APP_SERVER_PORT") ∧
      ∃ all, bare.1.2.properties.Gives ⟨bare.2.store, []⟩ all ∧ all.keys = ["db.pool-size"] := by
  intro assigned made bare
  let m : Table String := .ofList [("server.port", "8080"), ("name", "demo")]
  have hm : ∀ key ∈ m.keys, HasVariable "_" key := by decide
  have hothers : ∀ e ∈ [("APPLE_PIE", "no"), ("OTHER", "x")],
      "APP" ≠ "" ∧ ¬("APP" ++ "_").toList <+: e.1.toList := by decide
  have hassigned : assigned.Perm (m.entries.map (fun e => (variableOf "APP" "_" e.1, e.2)) ++
      [("APPLE_PIE", "no"), ("OTHER", "x")]) := by decide
  let pool : Table String := .ofList [("db.pool-size", "4")]
  have hpool : ∀ key ∈ pool.keys, HasVariable "__" key := by decide
  have hbare : [("DB__POOL-SIZE", "4")].Perm
      (pool.entries.map (fun e => (variableOf "" "__" e.1, e.2)) ++ []) := by decide
  have hnone : ∀ e ∈ ([] : List (String × String)),
      "" ≠ "" ∧ ¬("" ++ "__").toList <+: e.1.toList := nofun
  obtain ⟨all, hall, hkeys, hvalues, -⟩ :=
    environmentOf_decodes (by decide) hm hothers hassigned none none (World.new ⟨0, 0⟩) []
  obtain ⟨other, hother, hotherKeys, -⟩ :=
    environmentOf_decodes (by decide) hpool hnone hbare none none (World.new ⟨0, 0⟩) []
  obtain ⟨p, hp, -, hvalue, hvariable⟩ := hvalues "server.port" "8080" (by decide)
  exact ⟨⟨all, hall, hkeys.trans (by decide), p, hp, hvalue, hvariable.trans (by decide)⟩,
    other, hother, hotherKeys.trans (by decide)⟩

end World

end LayeredConfig
