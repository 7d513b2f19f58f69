import Mathlib.Order.Lattice.Nat
import Scenery.Node.Graph

/-!
# What a graph reaches

The records of a graph refer to each other by their lists of ids.  An id is
reached from a root if a chain of references leads to it, where every record on
the chain but the last one converts.  So an id that is reached need not have a
record, and its record need not convert.

`ReachesIn` counts the references of a chain and `distance` is the length of a
shortest one.  Both speak of the records only, and not of the order in which
anybody follows the references.
-/

namespace Scenery

namespace NodeRecord

/-! ## The ids a record lists -/

/-- A record lists an id: its list of ids is an array that holds the id as a
text. -/
def Lists (r : NodeRecord) (id : String) : Prop :=
  ∃ items, r.children.lookup idsKey = some (.array items) ∧ .string id ∈ items

theorem mem_idsOf {value : Json} {id : String} :
    id ∈ idsOf value ↔ ∃ items, value = .array items ∧ .string id ∈ items := by
  unfold idsOf
  rw [List.mem_filterMap]
  constructor
  · rintro ⟨item, hitem, htext⟩
    cases value with
    | array items =>
        cases item with
        | string text =>
            obtain rfl : text = id := Option.some.inj htext
            exact ⟨items, rfl, hitem⟩
        | null | bool | number | array | object => cases htext
    | null | bool | number | string | object => cases hitem
  · rintro ⟨items, rfl, hitem⟩
    exact ⟨.string id, hitem, rfl⟩

/-- The children of a record are the ids it lists. -/
theorem mem_childIds {r : NodeRecord} {id : String} : id ∈ r.childIds ↔ r.Lists id := by
  unfold childIds Lists
  rw [List.mem_eraseDups]
  cases r.children.lookup idsKey with
  | none => simp
  | some value =>
      simp only [Option.map_some, Option.getD_some, mem_idsOf, Option.some.injEq]

theorem nodup_eraseDups : ∀ l : List String, l.eraseDups.Nodup
  | [] => by simp
  | id :: l => by
      rw [List.eraseDups_cons, List.nodup_cons]
      constructor
      · rw [List.mem_eraseDups]
        simp
      · exact nodup_eraseDups _
termination_by l => l.length
decreasing_by exact Nat.lt_succ_of_le (List.length_filter_le _ _)

/-- A child is listed once, however often the record names it. -/
theorem nodup_childIds (r : NodeRecord) : r.childIds.Nodup := nodup_eraseDups _

end NodeRecord

namespace Records

variable {g : Records} {root : String}

/-! ## Chains of references -/

/-- The record of an id, if it has one that converts. -/
def decoded? (g : Records) (id : String) : Option NodeRecord :=
  (g.record? id).bind fun value => (NodeRecord.decode value).toOption

theorem decoded?_of_noRecord {id : String} (h : g.record? id = none) : g.decoded? id = none := by
  rw [decoded?, h]
  rfl

theorem decoded?_of_error {id : String} {value : Json} {e : Json.DecodeError}
    (h : g.record? id = some value) (he : NodeRecord.decode value = .error e) :
    g.decoded? id = none := by
  simp only [decoded?, h, Option.bind_some, he, Except.toOption]

theorem decoded?_of_ok {id : String} {value : Json} {r : NodeRecord}
    (h : g.record? id = some value) (hd : NodeRecord.decode value = .ok r) :
    g.decoded? id = some r := by
  simp only [decoded?, h, Option.bind_some, hd, Except.toOption]

/-- A number of references leads from a root to an id. -/
inductive ReachesIn (g : Records) (root : String) : Nat → String → Prop where
  /-- No reference leads from the root to itself. -/
  | root : ReachesIn g root 0 root
  /-- One more leads to any id that is listed by a record that converts. -/
  | child {n : Nat} {id child : String} {r : NodeRecord} (above : ReachesIn g root n id)
      (record : g.decoded? id = some r) (listed : r.Lists child) :
      ReachesIn g root (n + 1) child

/-- Some references lead from a root to an id. -/
def Reaches (g : Records) (root id : String) : Prop := ∃ n, g.ReachesIn root n id

/-- How many references lead from a root to an id at least. -/
noncomputable def distance (g : Records) (root id : String) : Nat :=
  sInf {n | g.ReachesIn root n id}

theorem ReachesIn.distance_le {n : Nat} {id : String} (h : g.ReachesIn root n id) :
    g.distance root id ≤ n := Nat.sInf_le h

theorem Reaches.reachesIn_distance {id : String} (h : g.Reaches root id) :
    g.ReachesIn root (g.distance root id) id := Nat.sInf_mem h

end Records

end Scenery
