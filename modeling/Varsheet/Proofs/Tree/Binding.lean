import Mathlib.Data.List.Induction
import Mathlib.Data.List.Nodup
import Varsheet.Tree.Basic

/-!
# Binding names one after another

A list of entries may give one name several times. Binding the entries one by one comes to a rule that
does not speak of steps: the names stand in the order in which they first occur, and each has the value
that it is given last.

* `Tree.last?`, `Tree.collect` : the rule
* `Tree.ofEntries_eq_collect` : binding one by one follows the rule
* `Tree.insertAll_of_nodup` : names that are all new are added as they come
* `Tree.insertAll_ofEntries` : entries can be made into a tree before they are bound
-/

namespace Varsheet.Tree

/-- The value that entries give a name last. -/
def last? (entries : List (String × Value)) (key : String) : Option Value :=
  (entries.filter fun entry => entry.1 = key).getLast?.map Prod.snd

/-- The names of some entries in the order in which they first occur, each with the value that it is
given last. -/
def collect (entries : List (String × Value)) : Tree :=
  (entries.map Prod.fst).eraseDups.filterMap fun key =>
    (last? entries key).map fun value => (key, value)

/-! ## Lookup -/

theorem get?_eq_none_iff {tree : Tree} {key : String} : tree.get? key = none ↔ key ∉ tree.keys := by
  induction tree with
  | nil => simp [get?, keys]
  | cons entry rest ih =>
    obtain ⟨name, content⟩ := entry
    by_cases same : name = key
    · simp [get?, keys, same]
    · simpa [get?, keys, same, Ne.symm same] using ih

theorem mem_keys_of_get? {tree : Tree} {key : String} {content : Value} (bound : tree.get? key = some content) :
    key ∈ tree.keys := by
  by_contra absent
  rw [get?_eq_none_iff.2 absent] at bound
  cases bound

theorem exists_get?_of_mem {tree : Tree} {key : String} (named : key ∈ tree.keys) :
    ∃ content, tree.get? key = some content :=
  Option.ne_none_iff_exists'.1 fun absent => get?_eq_none_iff.1 absent named

/-- A tree without repeated names is its names with what they are bound to. -/
theorem filterMap_get?_keys {tree : Tree} (distinct : (keys tree).Nodup) :
    ((keys tree).filterMap fun key => (get? tree key).map fun value => (key, value)) = tree := by
  induction tree with
  | nil => rfl
  | cons entry rest ih =>
    obtain ⟨name, value⟩ := entry
    simp only [keys, List.map_cons, List.nodup_cons] at distinct
    obtain ⟨fresh, distinct⟩ := distinct
    -- the first name does not occur again, so it hides nothing
    have hrest : ∀ key ∈ keys rest, get? ((name, value) :: rest) key = get? rest key := by
      intro key member
      have : name ≠ key := fun e => fresh (e ▸ member)
      rw [get?, if_neg this]
    have hname : (get? ((name, value) :: rest) name).map (fun v => (name, v)) = some (name, value) := by
      simp [get?]
    simp only [keys, List.map_cons, List.filterMap_cons, hname]
    congr 1
    calc
      (keys rest).filterMap (fun key => (get? ((name, value) :: rest) key).map fun v => (key, v))
        = (keys rest).filterMap fun key => (get? rest key).map fun v => (key, v) :=
          List.filterMap_congr fun key member => by rw [hrest key member]
      _ = rest := ih distinct

/-! ## Steps -/

@[simp] theorem insertAll_nil (tree : Tree) : insertAll tree [] = tree := rfl

@[simp] theorem insertAll_cons (tree : Tree) (key : String) (value : Value)
    (rest : List (String × Value)) :
    insertAll tree ((key, value) :: rest) = insertAll (insert tree key value) rest := rfl

theorem insertAll_append (tree : Tree) (front back : List (String × Value)) :
    insertAll tree (front ++ back) = insertAll (insertAll tree front) back :=
  List.foldl_append

theorem insert_of_not_mem {tree : Tree} {key : String} (value : Value) (fresh : key ∉ keys tree) :
    insert tree key value = tree ++ [(key, value)] := by
  induction tree with
  | nil => rfl
  | cons entry rest ih =>
    obtain ⟨name, old⟩ := entry
    simp only [keys, List.map_cons, List.mem_cons, not_or] at fresh
    rw [insert, if_neg fun e => fresh.1 e.symm, ih fresh.2, List.cons_append]

theorem insertAll_of_nodup {tree : Tree} {entries : List (String × Value)}
    (distinct : (keys tree ++ keys entries).Nodup) : insertAll tree entries = tree ++ entries := by
  induction entries generalizing tree with
  | nil => simp
  | cons entry rest ih =>
    obtain ⟨key, value⟩ := entry
    have fresh : key ∉ keys tree := by
      intro member
      exact (List.nodup_append.1 distinct).2.2 key member key (by simp [keys]) rfl
    rw [insertAll_cons, insert_of_not_mem value fresh, ih, List.append_assoc, List.singleton_append]
    simpa [keys] using distinct

theorem insertAll_nil_of_nodup {entries : List (String × Value)} (distinct : (keys entries).Nodup) :
    insertAll [] entries = entries :=
  insertAll_of_nodup distinct

theorem nodup_keys_insert {tree : Tree} (key : String) (value : Value)
    (distinct : (keys tree).Nodup) : (keys (insert tree key value)).Nodup := by
  rw [keys_insert]
  split
  · exact distinct
  · rename_i fresh
    exact List.nodup_append.2 ⟨distinct, List.nodup_singleton key, by
      intro a ha b hb
      rw [List.mem_singleton.1 hb]
      intro e
      exact fresh (e ▸ ha)⟩

theorem nodup_keys_insertAll {tree : Tree} (entries : List (String × Value))
    (distinct : (keys tree).Nodup) : (keys (insertAll tree entries)).Nodup := by
  induction entries generalizing tree with
  | nil => exact distinct
  | cons entry rest ih => exact ih (nodup_keys_insert entry.1 entry.2 distinct)

theorem nodup_keys_ofEntries (entries : List (String × Value)) : (keys (ofEntries entries)).Nodup :=
  nodup_keys_insertAll entries List.nodup_nil

/-! ## The rule -/

theorem last?_concat (entries : List (String × Value)) (name : String) (value : Value)
    (key : String) :
    last? (entries ++ [(name, value)]) key = if name = key then some value else last? entries key := by
  by_cases h : name = key <;> simp [last?, h]

theorem eraseDups_concat (names : List String) (name : String) :
    (names ++ [name]).eraseDups =
      if name ∈ names then names.eraseDups else names.eraseDups ++ [name] := by
  rw [List.eraseDups_append]
  by_cases h : name ∈ names <;> simp [List.removeAll, h, List.eraseDups_cons]

theorem keys_ofEntries (entries : List (String × Value)) :
    keys (ofEntries entries) = (entries.map Prod.fst).eraseDups := by
  induction entries using List.reverseRecOn with
  | nil => rfl
  | append_singleton front entry ih =>
    rw [ofEntries, insertAll_append, List.map_append, List.map_singleton, eraseDups_concat, ← ih]
    rw [show insertAll (insertAll [] front) [entry] = insert (ofEntries front) entry.1 entry.2 from rfl]
    rw [keys_insert, ih]
    simp only [List.mem_eraseDups]

theorem get?_ofEntries (entries : List (String × Value)) (key : String) :
    get? (ofEntries entries) key = last? entries key := by
  induction entries using List.reverseRecOn with
  | nil => rfl
  | append_singleton front entry ih =>
    obtain ⟨name, value⟩ := entry
    rw [ofEntries, insertAll_append, last?_concat]
    show get? (insert (ofEntries front) name value) key = _
    by_cases h : name = key
    · subst h
      simp
    · rw [get?_insert_of_ne _ _ h, ih, if_neg h]

/-- Binding entries one by one keeps the first place and the last value of each name. -/
theorem ofEntries_eq_collect (entries : List (String × Value)) :
    ofEntries entries = collect entries := by
  rw [collect, ← keys_ofEntries]
  simp only [← get?_ofEntries]
  exact (filterMap_get?_keys (nodup_keys_ofEntries entries)).symm

/-! ## One tree laid over another -/

theorem insert_insert_self (tree : Tree) (key : String) (old value : Value) :
    insert (insert tree key old) key value = insert tree key value := by
  induction tree with
  | nil => simp [insert]
  | cons entry rest ih =>
    obtain ⟨name, first⟩ := entry
    by_cases same : name = key
    · simp [insert, same]
    · simp [insert, same, ih]

/-- A name that has its place already takes a value before or after another name is bound. -/
theorem insert_comm_of_mem {tree : Tree} {key other : String} (member : key ∈ keys tree) (ne : key ≠ other)
    (value otherValue : Value) :
    insert (insert tree other otherValue) key value = insert (insert tree key value) other otherValue := by
  induction tree with
  | nil => cases member
  | cons entry rest ih =>
    obtain ⟨name, first⟩ := entry
    by_cases same : name = key
    · subst same
      simp [insert, ne]
    · have later : key ∈ keys rest := List.mem_of_ne_of_mem (Ne.symm same) member
      by_cases sameOther : name = other
      · simp [insert, sameOther, Ne.symm ne]
      · simp [insert, same, sameOther, ih later]

theorem mem_keys_insert {tree : Tree} {key : String} (member : key ∈ keys tree) (name : String) (value : Value) :
    key ∈ keys (insert tree name value) := by
  rw [keys_insert]
  split
  · exact member
  · exact List.mem_append_left _ member

theorem insert_insertAll_of_mem {tree : Tree} {key : String} (entries : List (String × Value))
    (member : key ∈ keys tree) (absent : key ∉ keys entries) (value : Value) :
    insert (insertAll tree entries) key value = insertAll (insert tree key value) entries := by
  induction entries generalizing tree with
  | nil => rfl
  | cons entry rest ih =>
    obtain ⟨name, first⟩ := entry
    rw [keys, List.map_cons, List.mem_cons, not_or] at absent
    rw [insertAll_cons, insertAll_cons, ih (mem_keys_insert member name first) absent.2,
      insert_comm_of_mem member absent.1]

/-- Binding one more entry before or after a tree is laid over another one comes to the same. -/
theorem insertAll_insert (tree : Tree) {entries : Tree} (distinct : (keys entries).Nodup) (key : String)
    (value : Value) :
    insertAll tree (insert entries key value) = insert (insertAll tree entries) key value := by
  induction entries generalizing tree with
  | nil => rfl
  | cons entry rest ih =>
    obtain ⟨name, old⟩ := entry
    obtain ⟨fresh, distinct⟩ := List.nodup_cons.1 distinct
    by_cases same : name = key
    · subst same
      have bound : name ∈ keys (insert tree name old) := mem_keys_of_get? (get?_insert_self tree name old)
      rw [insert, if_pos rfl, insertAll_cons, insertAll_cons, insert_insertAll_of_mem rest bound fresh,
        insert_insert_self]
    · rw [insert, if_neg same, insertAll_cons, insertAll_cons, ih _ distinct]

/-- Entries can be made into a tree of their own before they are bound. -/
theorem insertAll_ofEntries (tree : Tree) (entries : List (String × Value)) :
    insertAll tree (ofEntries entries) = insertAll tree entries := by
  induction entries using List.reverseRecOn with
  | nil => rfl
  | append_singleton front entry ih =>
    obtain ⟨key, value⟩ := entry
    have last : ofEntries (front ++ [(key, value)]) = insert (ofEntries front) key value :=
      insertAll_append [] front [(key, value)]
    rw [last, insertAll_insert tree (nodup_keys_ofEntries front), ih, insertAll_append]
    rfl

end Varsheet.Tree
