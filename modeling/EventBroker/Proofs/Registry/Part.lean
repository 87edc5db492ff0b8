import EventBroker.Proofs.Registry.History

/-!
The part of a registry that belongs to one name. It is a registry itself, in which the stream
objects of this name are numbered among themselves. An operation on a stream of the name does to
the part what it does to the whole, and an operation on a stream of another name leaves the part
as it is.
-/
namespace EventBroker

/-- How many of the first `k` names are a given one. -/
def rank (names : List String) (name : String) (k : Nat) : Nat := (names.take k).count name

theorem rank_cons_succ (n : String) (names : List String) (name : String) (k : Nat) :
    rank (n :: names) name (k + 1) = rank names name k + if n == name then 1 else 0 := by
  rw [rank, List.take_succ_cons, List.count_cons]
  rfl

theorem rank_append (names names' : List String) (name : String) (k : Nat)
    (hk : k ≤ names.length) : rank (names ++ names') name k = rank names name k := by
  rw [rank, List.take_append_of_le_length hk]
  rfl

theorem rank_lt (names : List String) (name : String) {k m : Nat} (hk : names[k]? = some name)
    (hkm : k < m) : rank names name k < rank names name m := by
  induction names generalizing k m with
  | nil => cases hk
  | cons n rest ih =>
    obtain ⟨m, rfl⟩ : ∃ j, m = j + 1 := ⟨m - 1, by omega⟩
    cases k with
    | zero =>
      obtain rfl : n = name := Option.some.inj hk
      rw [rank_cons_succ, beq_self_eq_true, if_pos rfl]
      exact Nat.succ_pos _
    | succ k =>
      rw [rank_cons_succ, rank_cons_succ]
      have hlt := ih hk (Nat.lt_of_succ_lt_succ hkm)
      omega

/-- Places that a name has are told apart by their ranks. -/
theorem rank_inj (names : List String) (name : String) {k m : Nat} (hk : names[k]? = some name)
    (hm : names[m]? = some name) (hrank : rank names name k = rank names name m) : k = m := by
  rcases Nat.lt_trichotomy k m with hlt | heq | hlt
  · exact absurd hrank (Nat.ne_of_lt (rank_lt names name hk hlt))
  · exact heq
  · exact absurd hrank.symm (Nat.ne_of_lt (rank_lt names name hm hlt))

section Lists

variable {α : Type} (f : α → String)

theorem getElem?_filter_rank (items : List α) (name : String) (k : Nat) (a : α)
    (hk : items[k]? = some a) (ha : f a = name) :
    (items.filter (f · == name))[rank (items.map f) name k]? = some a := by
  induction items generalizing k with
  | nil => cases hk
  | cons b rest ih =>
    cases k with
    | zero =>
      obtain rfl : b = a := Option.some.inj hk
      rw [List.filter_cons, if_pos (beq_iff_eq.mpr ha)]
      rfl
    | succ k =>
      rw [List.map_cons, rank_cons_succ, List.filter_cons]
      cases hb : f b == name with
      | true =>
        simp only [if_true, List.getElem?_cons_succ]
        exact ih k hk
      | false =>
        simp only [Bool.false_eq_true, if_false, Nat.add_zero]
        exact ih k hk

theorem rank_length (items : List α) (name : String) :
    rank (items.map f) name items.length = (items.filter (f · == name)).length := by
  rw [rank, List.take_of_length_le (Nat.le_of_eq (List.length_map f)), List.count,
    List.countP_map, List.countP_eq_length_filter]
  rfl

theorem map_modify (items : List α) (k : Nat) (g : α → α) (hg : ∀ a, f (g a) = f a) :
    (items.modify k g).map f = items.map f := by
  induction items generalizing k with
  | nil => cases k <;> rfl
  | cons b rest ih =>
    cases k with
    | zero =>
      rw [List.modify_zero_cons, List.map_cons, List.map_cons, hg]
    | succ k =>
      rw [List.modify_succ_cons, List.map_cons, List.map_cons, ih]

/-- A change of one item changes the items of its name as it changes the whole. -/
theorem filter_modify_own (items : List α) (name : String) (k : Nat) (g : α → α)
    (hg : ∀ a, f (g a) = f a) (hk : (items.map f)[k]? = some name) :
    (items.modify k g).filter (f · == name) =
      (items.filter (f · == name)).modify (rank (items.map f) name k) g := by
  induction items generalizing k with
  | nil => cases hk
  | cons b rest ih =>
    cases k with
    | zero =>
      have hb : (f b == name) = true := beq_iff_eq.mpr (Option.some.inj hk)
      have hgb : (f (g b) == name) = true := by rw [hg, hb]
      rw [List.modify_zero_cons, List.filter_cons, if_pos hgb, List.filter_cons, if_pos hb]
      rfl
    | succ k =>
      rw [List.modify_succ_cons, List.map_cons, rank_cons_succ, List.filter_cons, List.filter_cons,
        ih k hk]
      cases f b == name with
      | true => simp only [if_true, List.modify_succ_cons]
      | false => simp only [Bool.false_eq_true, if_false, Nat.add_zero]

theorem filter_modify_other (items : List α) (n name : String) (k : Nat) (g : α → α)
    (hg : ∀ a, f (g a) = f a) (hk : (items.map f)[k]? = some n) (hn : n ≠ name) :
    (items.modify k g).filter (f · == name) = items.filter (f · == name) := by
  induction items generalizing k with
  | nil => cases hk
  | cons b rest ih =>
    cases k with
    | zero =>
      have hb : ¬(f b == name) = true := by
        rw [beq_iff_eq, show f b = n from Option.some.inj hk]
        exact hn
      have hgb : ¬(f (g b) == name) = true := by
        rw [hg]
        exact hb
      rw [List.modify_zero_cons, List.filter_cons, if_neg hgb, List.filter_cons, if_neg hb]
    | succ k =>
      rw [List.modify_succ_cons, List.filter_cons, List.filter_cons, ih k hk]

theorem lookup_map_filter {β : Type} (pairs : List (String × α)) (name : String) (g : α → β) :
    ((pairs.filter (·.1 == name)).map fun (n, a) => (n, g a)).lookup name =
      (pairs.lookup name).map g := by
  induction pairs with
  | nil => rfl
  | cons pair rest ih =>
    obtain ⟨n, a⟩ := pair
    rw [List.lookup_cons, List.filter_cons]
    by_cases hn : n = name
    · subst hn
      simp only [beq_self_eq_true, if_true, List.map_cons, List.lookup_cons, Option.map_some]
    · rw [if_neg fun h => hn (beq_iff_eq.mp h), ih, beq_eq_false_iff_ne.mpr (Ne.symm hn)]

end Lists

/-- Among themselves the places of a name are numbered by their ranks. -/
theorem getElem?_rank (names : List String) (name : String) (k : Nat)
    (hk : names[k]? = some name) : (names.filter (· == name))[rank names name k]? = some name := by
  have hfound := getElem?_filter_rank id names name k name hk rfl
  rw [List.map_id] at hfound
  exact hfound

theorem rank_all (names : List String) (name : String) :
    rank names name names.length = (names.filter (· == name)).length := by
  have hlength := rank_length id names name
  rw [List.map_id] at hlength
  exact hlength

namespace Registry

open EventStream (Op)

def titles (r : Registry) : List String := r.objects.map (·.name)

def place (r : Registry) (name : String) (key : Nat) : Nat := rank r.titles name key

def only (r : Registry) (name : String) : Registry :=
  { settings := r.settings
    objects := r.objects.filter (·.name == name)
    names := (r.names.filter (·.1 == name)).map fun (n, key) => (n, r.place name key) }

def Labelled (r : Registry) : Prop := ∀ pair ∈ r.names, r.titles[pair.2]? = some pair.1

theorem titles_eq_some_iff (r : Registry) (key : Nat) (name : String) :
    r.titles[key]? = some name ↔ ∃ stream, r.stream? key = some stream ∧ stream.name = name := by
  rw [titles, List.getElem?_map, Option.map_eq_some_iff]
  rfl

theorem Labelled.titles_of_key? {r : Registry} (hr : r.Labelled) {name : String} {key : Nat}
    (hkey : r.key? name = some key) : r.titles[key]? = some name := by
  obtain ⟨before, after, hnames, _⟩ := List.lookup_eq_some_iff.mp hkey
  apply hr (name, key)
  rw [hnames]
  exact List.mem_append_right _ List.mem_cons_self

theorem key?_only (r : Registry) (name : String) :
    (r.only name).key? name = (r.key? name).map (r.place name) :=
  lookup_map_filter r.names name (r.place name)

theorem stream?_only (r : Registry) (name : String) (key : Nat)
    (hkey : r.titles[key]? = some name) :
    (r.only name).stream? (r.place name key) = r.stream? key := by
  obtain ⟨stream, hstream, hname⟩ := (r.titles_eq_some_iff key name).mp hkey
  rw [hstream]
  exact getElem?_filter_rank (·.name) r.objects name key stream hstream hname

/-- What is found under a name is found in its part. -/
theorem Labelled.get?_only {r : Registry} (hr : r.Labelled) (name : String) :
    (r.only name).get? name = r.get? name := by
  rw [get?, get?, key?_only]
  cases hkey : r.key? name with
  | none => rfl
  | some key => exact r.stream?_only name key (hr.titles_of_key? hkey)

theorem titles_perform (r : Registry) (key now : Nat) (op : Op) :
    (r.perform key now op).titles = r.titles :=
  map_modify EventStream.name r.objects key _ fun stream => (stream.perform_identity now op).1

theorem only_perform (r : Registry) (name : String) (key now : Nat) (op : Op) :
    (r.perform key now op).only name =
      { r.only name with
        objects := (r.perform key now op).objects.filter (·.name == name) } := by
  have hplace : (r.perform key now op).place name = r.place name := by
    funext k
    rw [place, titles_perform]
    rfl
  rw [only, hplace]
  rfl

theorem only_perform_own (r : Registry) (name : String) (key now : Nat) (op : Op)
    (hkey : r.titles[key]? = some name) :
    (r.perform key now op).only name = (r.only name).perform (r.place name key) now op := by
  rw [only_perform]
  exact congrArg (fun objects => ({ r.only name with objects } : Registry))
    (filter_modify_own EventStream.name r.objects name key _
      (fun stream => (stream.perform_identity now op).1) hkey)

theorem only_perform_other (r : Registry) (n name : String) (key now : Nat) (op : Op)
    (hkey : r.titles[key]? = some n) (hn : n ≠ name) :
    (r.perform key now op).only name = r.only name := by
  rw [only_perform]
  exact congrArg (fun objects => ({ r.only name with objects } : Registry))
    (filter_modify_other EventStream.name r.objects n name key _
      (fun stream => (stream.perform_identity now op).1) hkey hn)

theorem only_forget_own (r : Registry) (name : String) :
    (r.forget name).only name = (r.only name).forget name := by
  have hnone : ((r.names.filter (·.1 != name)).filter (·.1 == name)) = [] := by
    rw [List.filter_filter, List.filter_eq_nil_iff]
    intro pair _
    simp
  have hnone' : ((r.only name).names.filter (·.1 != name)) = [] := by
    rw [List.filter_eq_nil_iff]
    intro pair hpair
    obtain ⟨⟨n, key⟩, hmem, rfl⟩ := List.mem_map.mp hpair
    simpa using (List.mem_filter.mp hmem).2
  rw [only, forget, forget, hnone, hnone']
  rfl

theorem only_forget_other (r : Registry) (n name : String) (hn : n ≠ name) :
    (r.forget n).only name = r.only name := by
  have hsame : ((r.names.filter (·.1 != n)).filter (·.1 == name)) =
      r.names.filter (·.1 == name) := by
    rw [List.filter_filter]
    apply List.filter_congr
    intro pair _
    by_cases hpair : pair.1 = name
    · simp [hpair, Ne.symm hn]
    · simp [hpair]
  rw [only, only, forget, hsame]
  rfl

def added (r : Registry) (name : String) (auto : Bool) : Registry :=
  { r with
    objects := r.objects ++ [.new name r.settings auto]
    names := r.names ++ [(name, r.objects.length)] }

theorem titles_added (r : Registry) (name : String) (auto : Bool) :
    (r.added name auto).titles = r.titles ++ [name] :=
  List.map_append

/-- Names lead where they did in the part as well when a stream is added. -/
theorem Labelled.names_added {r : Registry} (hr : r.Labelled) (n name : String) (auto : Bool) :
    ((r.names.filter (·.1 == name)).map fun (m, key) => (m, (r.added n auto).place name key)) =
      (r.only name).names := by
  apply List.map_congr_left
  intro pair hpair
  obtain ⟨hmem, _⟩ := List.mem_filter.mp hpair
  have hkey := (List.getElem?_eq_some_iff.mp (hr pair hmem)).1
  simp only [place, titles_added, rank_append _ _ _ _ (Nat.le_of_lt hkey)]

theorem place_added (r : Registry) (name : String) (auto : Bool) :
    (r.added name auto).place name r.objects.length = (r.only name).objects.length := by
  have hle : r.objects.length ≤ r.titles.length := Nat.le_of_eq (List.length_map _).symm
  rw [place, titles_added, rank_append r.titles [name] name _ hle]
  exact rank_length EventStream.name r.objects name

theorem Labelled.only_added_own {r : Registry} (hr : r.Labelled) (name : String) (auto : Bool) :
    (r.added name auto).only name = (r.only name).added name auto := by
  have hobjects : (r.added name auto).objects.filter (·.name == name) =
      (r.only name).objects ++ [.new name r.settings auto] := by
    rw [added, List.filter_append, List.filter_cons, EventStream.new, beq_self_eq_true,
      if_pos rfl]
    rfl
  have hnames : (r.added name auto).names.filter (·.1 == name) =
      r.names.filter (·.1 == name) ++ [(name, r.objects.length)] := by
    rw [added, List.filter_append, List.filter_cons, beq_self_eq_true, if_pos rfl]
    rfl
  rw [only, hobjects, hnames, List.map_append, hr.names_added, List.map_singleton]
  simp only [place_added]
  rfl

theorem Labelled.only_added_other {r : Registry} (hr : r.Labelled) (n name : String) (auto : Bool)
    (hn : n ≠ name) : (r.added n auto).only name = r.only name := by
  have hne : (n == name) = false := beq_eq_false_iff_ne.mpr hn
  have hobjects : (r.added n auto).objects.filter (·.name == name) = (r.only name).objects := by
    rw [added, List.filter_append, List.filter_cons, EventStream.new, hne,
      if_neg Bool.false_ne_true]
    exact List.append_nil _
  have hnames : (r.added n auto).names.filter (·.1 == name) = r.names.filter (·.1 == name) := by
    rw [added, List.filter_append, List.filter_cons, hne, if_neg Bool.false_ne_true]
    exact List.append_nil _
  rw [only, hobjects, hnames, hr.names_added]
  rfl

/-- A stream keeps its name and its place when streams are added. -/
theorem titles_of_grow {r r' : Registry} (hgrow : r.titles <+: r'.titles) {key : Nat}
    {name : String} (hkey : r.titles[key]? = some name) : r'.titles[key]? = some name := by
  obtain ⟨more, hmore⟩ := hgrow
  rw [← hmore, List.getElem?_append_left (List.getElem?_eq_some_iff.mp hkey).1]
  exact hkey

theorem place_of_grow {r r' : Registry} (hgrow : r.titles <+: r'.titles) {key : Nat}
    {n : String} (hkey : r.titles[key]? = some n) (name : String) :
    r'.place name key = r.place name key := by
  obtain ⟨more, hmore⟩ := hgrow
  have hlt := (List.getElem?_eq_some_iff.mp hkey).1
  rw [place, ← hmore, rank_append r.titles more name key (Nat.le_of_lt hlt)]
  rfl

inductive Touches (name : String) (r : Registry) : Registry → Prop
  | refl : Touches name r r
  | insert {r' : Registry} (h : Touches name r r') (auto : Bool) :
      Touches name r (r'.insert name auto).1
  | forget {r' : Registry} (h : Touches name r r') : Touches name r (r'.forget name)
  | perform {r' : Registry} (h : Touches name r r') (key now : Nat) (op : Op)
      (hkey : r'.titles[key]? = some name) : Touches name r (r'.perform key now op)

namespace Touches

variable {r r' : Registry} {n : String}

theorem labelled (h : r.Touches n r') (hr : r.Labelled) : r'.Labelled := by
  induction h with
  | refl => exact hr
  | @insert r' _ auto ih =>
    rcases r'.insert_cases n auto with ⟨key, _, hinsert⟩ | ⟨_, hinsert⟩
    · rw [hinsert]
      exact ih
    · rw [hinsert]
      intro pair hpair
      have htitles : (r'.added n auto).titles[pair.2]? = some pair.1 := by
        rw [titles_added]
        rcases List.mem_append.mp hpair with hold | hnew
        · have hkey := ih pair hold
          rw [List.getElem?_append_left (List.getElem?_eq_some_iff.mp hkey).1]
          exact hkey
        · obtain rfl := List.mem_singleton.mp hnew
          have hlength : r'.objects.length = r'.titles.length := (List.length_map _).symm
          simp only [hlength, List.getElem?_concat_length]
      exact htitles
  | forget _ ih => exact fun pair hpair => ih pair (List.mem_filter.mp hpair).1
  | perform _ key now op _ ih =>
    intro pair hpair
    rw [titles_perform]
    exact ih pair hpair

/-- Streams are only ever added. -/
theorem titles_grow (h : r.Touches n r') : r.titles <+: r'.titles := by
  induction h with
  | refl => exact List.prefix_rfl
  | @insert r' _ auto ih =>
    rcases r'.insert_cases n auto with ⟨_, _, hinsert⟩ | ⟨_, hinsert⟩
    · rw [hinsert]
      exact ih
    · have htitles : (r'.insert n auto).1.titles = r'.titles ++ [n] := by
        rw [hinsert]
        exact r'.titles_added n auto
      rw [htitles]
      exact ih.trans (List.prefix_append _ _)
  | forget _ ih => exact ih
  | perform _ k now op _ ih =>
    rw [titles_perform]
    exact ih

/-- The streams of other names are not concerned. -/
theorem only_eq (h : r.Touches n r') (hr : r.Labelled) (name : String) (hn : n ≠ name) :
    r'.only name = r.only name := by
  induction h with
  | refl => rfl
  | @insert r' h auto ih =>
    rcases r'.insert_cases n auto with ⟨key, _, hinsert⟩ | ⟨_, hinsert⟩
    · rw [hinsert]
      exact ih
    · rw [hinsert]
      exact ((h.labelled hr).only_added_other n name auto hn).trans ih
  | @forget r' _ ih => exact (r'.only_forget_other n name hn).trans ih
  | @perform r' _ key now op hkey ih =>
    exact (r'.only_perform_other n name key now op hkey hn).trans ih

theorem trans {r'' : Registry} (h : r.Touches n r') (h' : r'.Touches n r'') : r.Touches n r'' := by
  induction h' with
  | refl => exact h
  | insert _ auto ih => exact ih.insert auto
  | forget _ ih => exact ih.forget
  | perform _ key now op hkey ih => exact ih.perform key now op hkey

end Touches

/-- The part finds or makes the stream that the whole finds or makes. -/
theorem Labelled.only_insert {r : Registry} (hr : r.Labelled) (name : String) (auto : Bool) :
    (r.only name).insert name auto =
      ((r.insert name auto).1.only name,
        (r.insert name auto).1.place name (r.insert name auto).2) := by
  rcases r.insert_cases name auto with ⟨key, hkey, hinsert⟩ | ⟨hkey, hinsert⟩
  · rw [hinsert, insert, key?_only, hkey]
    rfl
  · rw [hinsert, insert, key?_only, hkey]
    exact Prod.ext (hr.only_added_own name auto).symm (r.place_added name auto).symm

theorem Labelled.titles_insert {r : Registry} (hr : r.Labelled) (name : String) (auto : Bool) :
    (r.insert name auto).1.titles[(r.insert name auto).2]? = some name := by
  have hinserted := r.inserted_insert name auto
  have htouches : r.Touches name (r.insert name auto).1 := Touches.refl.insert auto
  exact (htouches.labelled hr).titles_of_key? hinserted.key_eq

theorem Labelled.touches_remove {r : Registry} (hr : r.Labelled) (name : String) :
    r.Touches name (r.remove name).1 := by
  unfold remove
  cases hkey : r.key? name with
  | none => exact .refl
  | some key => exact (Touches.refl.perform key 0 .remove (hr.titles_of_key? hkey)).forget

theorem Labelled.only_remove {r : Registry} (hr : r.Labelled) (name : String) :
    (r.only name).remove name = ((r.remove name).1.only name, (r.remove name).2) := by
  unfold remove
  rw [key?_only]
  cases hkey : r.key? name with
  | none => rfl
  | some key =>
    have hperform := r.only_perform_own name key 0 .remove (hr.titles_of_key? hkey)
    have hforget := (r.perform key 0 .remove).only_forget_own name
    rw [hperform] at hforget
    exact congrArg (·, true) hforget.symm

theorem touches_releaseIfIdle (r : Registry) (name : String) (key : Nat)
    (hkey : r.titles[key]? = some name) : r.Touches name (r.releaseIfIdle key).1 := by
  obtain ⟨stream, hstream, rfl⟩ := (r.titles_eq_some_iff key name).mp hkey
  rw [r.releaseIfIdle_eq key 0 stream hstream]
  split
  · exact Touches.refl.forget.perform key 0 .closeIfIdle hkey
  · exact .refl

/-- A stream is released in the part if it is in the whole. -/
theorem Labelled.only_releaseIfIdle {r : Registry} (hr : r.Labelled) (name : String) (key : Nat)
    (hkey : r.titles[key]? = some name) :
    ((r.only name).releaseIfIdle (r.place name key)).1 = (r.releaseIfIdle key).1.only name := by
  obtain ⟨stream, hstream, rfl⟩ := (r.titles_eq_some_iff key name).mp hkey
  have hstream' := (r.stream?_only stream.name key hkey).trans hstream
  have hcurrent : (r.only stream.name).key? stream.name = some (r.place stream.name key) ↔
      r.key? stream.name = some key := by
    rw [key?_only, Option.map_eq_some_iff]
    constructor
    · rintro ⟨k, hk, hplace⟩
      rw [hk, rank_inj r.titles stream.name (hr.titles_of_key? hk) hkey hplace]
    · exact fun hk => ⟨key, hk, rfl⟩
  rw [r.releaseIfIdle_eq key 0 stream hstream,
    (r.only stream.name).releaseIfIdle_eq _ 0 stream hstream']
  have hreleases := and_congr_left fun _ : stream.auto = true ∧ stream.isIdle = true => hcurrent
  by_cases hreleased : r.key? stream.name = some key ∧ stream.auto = true ∧ stream.isIdle = true
  · rw [if_pos hreleased, if_pos (hreleases.mpr hreleased)]
    have hperform := (r.forget stream.name).only_perform_own stream.name key 0 .closeIfIdle hkey
    rw [only_forget_own] at hperform
    exact hperform.symm
  · rw [if_neg hreleased, if_neg fun h => hreleased (hreleases.mp h)]

/-- A subscriber leaves its stream in the part as in the whole, and the stream is released in
both or in neither. -/
theorem Labelled.only_left {r : Registry} (hr : r.Labelled) (name : String) (key id : Nat)
    (releases : Bool) (hkey : r.titles[key]? = some name) :
    ((if releases then ((r.perform key 0 (.unsubscribe id)).releaseIfIdle key).1
        else r.perform key 0 (.unsubscribe id)).perform key 0 (.drop id)).only name =
      (if releases then
          (((r.only name).perform (r.place name key) 0 (.unsubscribe id)).releaseIfIdle
            (r.place name key)).1
        else (r.only name).perform (r.place name key) 0 (.unsubscribe id)).perform
          (r.place name key) 0 (.drop id) := by
  let left := r.perform key 0 (.unsubscribe id)
  have htouches : r.Touches name left := Touches.refl.perform key 0 _ hkey
  have hleft : left.titles[key]? = some name := titles_of_grow htouches.titles_grow hkey
  have hplace : left.place name key = r.place name key :=
    place_of_grow htouches.titles_grow hkey name
  rw [← r.only_perform_own name key 0 (.unsubscribe id) hkey]
  cases releases with
  | false =>
    rw [if_neg Bool.false_ne_true, if_neg Bool.false_ne_true, ← hplace]
    exact left.only_perform_own name key 0 (.drop id) hleft
  | true =>
    have hreleased := left.touches_releaseIfIdle name key hleft
    rw [if_pos rfl, if_pos rfl, ← hplace,
      (htouches.labelled hr).only_releaseIfIdle name key hleft,
      ← place_of_grow hreleased.titles_grow hleft name]
    exact only_perform_own _ name key 0 (.drop id) (titles_of_grow hreleased.titles_grow hleft)

/-- Of the streams of some pairs the part loses those of its own. -/
theorem only_foldl_removePair (pairs : List (String × Nat)) (r : Registry) (name : String)
    (hpairs : ∀ pair ∈ pairs, r.titles[pair.2]? = some pair.1) :
    (pairs.foldl removePair r).only name =
      ((pairs.filter (·.1 == name)).map fun (n, key) => (n, r.place name key)).foldl removePair
        (r.only name) := by
  induction pairs generalizing r with
  | nil => rfl
  | cons pair rest ih =>
    obtain ⟨n, key⟩ := pair
    have hkey : r.titles[key]? = some n := hpairs (n, key) List.mem_cons_self
    have htitles : (r.removePair (n, key)).titles = r.titles := r.titles_perform key 0 .remove
    have hplace : (r.removePair (n, key)).place name = r.place name := by
      funext k
      rw [place, htitles]
      rfl
    have hrest := ih (r.removePair (n, key)) fun pair hpair => by
      rw [htitles]
      exact hpairs pair (List.mem_cons_of_mem _ hpair)
    rw [List.foldl_cons, hrest, hplace, List.filter_cons]
    by_cases hn : n = name
    · subst hn
      have hown : (r.removePair (n, key)).only n = (r.only n).removePair (n, r.place n key) := by
        have hforget := (r.perform key 0 .remove).only_forget_own n
        rw [r.only_perform_own n key 0 .remove hkey] at hforget
        exact hforget
      rw [if_pos (beq_self_eq_true n), List.map_cons, List.foldl_cons, hown]
    · have hother : (r.removePair (n, key)).only name = r.only name :=
        ((r.perform key 0 .remove).only_forget_other n name hn).trans
          (r.only_perform_other n name key 0 .remove hkey hn)
      rw [if_neg fun h => hn (beq_iff_eq.mp h), hother]

theorem Labelled.only_removeAll {r : Registry} (hr : r.Labelled) (name : String) :
    r.removeAll.only name = (r.only name).removeAll :=
  only_foldl_removePair r.names r name hr

theorem titles_foldl_removePair (pairs : List (String × Nat)) (r : Registry) :
    (pairs.foldl removePair r).titles = r.titles := by
  induction pairs generalizing r with
  | nil => rfl
  | cons pair rest ih => exact (ih (r.removePair pair)).trans (r.titles_perform pair.2 0 .remove)

theorem names_foldl_removePair (pairs : List (String × Nat)) (r : Registry) :
    (pairs.foldl removePair r).names ⊆ r.names := by
  induction pairs generalizing r with
  | nil => exact fun _ h => h
  | cons pair rest ih =>
    exact fun p hp => (List.mem_filter.mp (ih (r.removePair pair) hp)).1

theorem Labelled.removeAll {r : Registry} (hr : r.Labelled) : r.removeAll.Labelled := by
  intro pair hpair
  have htitles : r.removeAll.titles = r.titles := titles_foldl_removePair r.names r
  rw [htitles]
  exact hr pair (names_foldl_removePair r.names r hpair)

end Registry

end EventBroker
