import ChestMenu.Proofs.Sessions
import ChestMenu.Proofs.Stacking

/-!
# Refreshing some slots

A layout of some slots is the layout of all of them with every other slot left out. A surface is patched with it: the
slots that are drawn get what a full refresh would show in them, also where that is nothing, and all others keep what
they show. The title is always drawn anew, and the drawing is counted like any other.

Resolvers without a memory are asked in the same state for both refreshes, so the two are compared as what they would
leave behind, not one after the other. That the cache of accessors is sound holds in every state that an engine
reaches.
-/
namespace ChestMenu

open Engine

section

/-- In the part of a grid a slot shows what it shows in the whole, if it is wanted, and nothing otherwise. -/
theorem Grid.get?_restrict (grid : Grid) (wanted : List Int) (slot : Int) :
    (grid.restrict wanted).get? slot = if slot ∈ wanted then grid.get? slot else none := by
  split
  · rename_i isWanted
    exact grid.agreeOn_restrict wanted slot isWanted
  · rename_i unwanted
    apply OrderedMap.get?_eq_none
    intro member
    obtain ⟨pair, kept, rfl⟩ := List.mem_map.mp member
    exact unwanted (List.contains_iff_mem.mp (List.mem_filter.mp kept).2)

/-- A surface after some of its slots were drawn from a grid under a title. -/
structure Surface.PatchedBy (before : Surface) (title : String) (grid : Grid) (slots : List Int) (after : Surface) :
    Prop where
  number : after.number = before.number
  actor : after.actor = before.actor
  size : after.size = before.size
  title : after.title = title
  renders : after.renders = before.renders + 1
  drawn : ∀ slot ∈ slots, after.items.get? slot = grid.get? slot
  kept : ∀ slot, slot ∉ slots → after.items.get? slot = before.items.get? slot

/-- Drawing some slots patches a surface. -/
theorem Surface.patchedBy_draw (surface : Surface) (title : String) (grid : Grid) (names : List SlotName) :
    surface.PatchedBy title grid (names.map (·.slot)) (surface.draw title grid (some names)) where
  number := surface.draw_number title grid (some names)
  actor := surface.draw_actor title grid (some names)
  size := surface.draw_size title grid (some names)
  title := rfl
  renders := rfl
  drawn slot isDrawn := (surface.get?_drawSlots grid names slot).trans (if_pos isDrawn)
  kept slot isKept := (surface.get?_drawSlots grid names slot).trans (if_neg isKept)

/-- Only what the grid has in the slots that are drawn matters. -/
theorem Surface.PatchedBy.congr {before after : Surface} {title : String} {part full : Grid} {slots : List Int}
    (patched : before.PatchedBy title part slots after) (agree : Grid.AgreeOn slots part full) :
    before.PatchedBy title full slots after :=
  { patched with drawn := fun slot isDrawn => (patched.drawn slot isDrawn).trans (agree slot isDrawn) }

section

variable {s t : EngineState} {ref : Nat} {session : Session} {menu : Menu} {slots : Option (List SlotName)}
  {answer : Bool}

/-- A menu is drawn again exactly if the actor has an id that can be a key and the drawing comes out; the state is then
the one with the drawing. -/
theorem outcome_redraw_eq_ok_iff [Machine] (pure : menu.IsPure) (registered : s.placeholders.IsPure)
    (sound : s.ledger.accessors.Sound s.classes) (opened : s.session? ref = some session)
    (known : s.menu? session.menu = some menu) :
    outcome (redraw ref slots) s = (.ok answer, t) ↔
      answer = true ∧ s.Keyed ref ∧ s.Keyed session.actor ∧
        ∃ title grid, answerOf (s.drawing session menu slots) = .ok (title, grid) ∧
          t = { s with ledger := ((s.drawing session menu slots).run.run (openLedger s)).2 }.drawn
            (s.actor session.actor).key title grid slots := by
  have steady : Steady s.classes (s.drawing session menu slots) := s.steady_drawing pure registered slots
  obtain ⟨same, -⟩ := steady (openLedger s) sound
  constructor
  · intro done
    rcases keyOf_cases ref s with ⟨cause, failed⟩ | ⟨keyed, -⟩
    · unfold redraw at done
      rw [outcome_bind_error _ (outcome_sessionOf_error failed)] at done
      cases done
    · rw [outcome_redraw keyed opened known] at done
      obtain ⟨result, ledger, step, ⟨cause, -, failed⟩ | ⟨title, grid, others, drawn, rendered⟩⟩ :=
        render_cases session menu slots s
      · rw [outcome_bind_error _ failed] at done
        cases done
      · rw [outcome_bind_ok _ rendered] at done
        cases done
        rw [step] at same ⊢
        exact ⟨rfl, keyed, others, title, grid, same.symm.trans drawn, rfl⟩
  · rintro ⟨rfl, keyed, others, title, grid, drawn, rfl⟩
    have step : (s.drawing session menu slots).run.run (openLedger s) =
        (.ok (title, grid), ((s.drawing session menu slots).run.run (openLedger s)).2) :=
      Prod.ext (same.trans drawn) rfl
    rw [outcome_redraw keyed opened known, outcome_bind_ok _ (outcome_render_ok others step)]
    rfl

/-- The surface of the actor after a drawing. -/
theorem screen_of_drawn {ledger : Ledger} {key : ActorKey} {surface : Surface}
    (there : s.screen.get? key = some surface) (title : String) (grid : Grid) (slots : Option (List SlotName)) :
    ({ s with ledger }.drawn key title grid slots).screen.get? key = some (surface.draw title grid slots) := by
  rw [EngineState.drawn_screen, if_pos rfl]
  exact congrArg _ there

end

/-- A layout of some slots is the layout of all of them with the others left out. And refreshing some slots of a menu
that is open patches the surface of its actor with such a layout, under the title with its tokens replaced anew, and
changes no other surface and no session; whenever a full refresh would go through in the same state, so does this one,
and what it draws is what the full one would show, as is the title.

Proof: a layout is a fold over the items that places each in its slots. Leaving out a slot before or after a placement
comes to the same, so it does for the whole fold (`layout_restrict`). The surface then takes over exactly the slots
that were asked for. -/
theorem refreshSlots_patches [Machine] :
    (∀ (classes : Classes) (actor : Actor) (view : Option View) (p : Placeholders) (menu : Menu) (wanted : List Int)
        (before : Ledger) (grid : Grid), menu.IsPure → p.IsPure → before.accessors.Sound classes →
        ((menu.layout classes actor view p none).run.run before).1 = .ok grid →
        ((menu.layout classes actor view p (some wanted)).run.run before).1 = .ok (grid.restrict wanted) ∧
          ∀ slot, (grid.restrict wanted).get? slot = if slot ∈ wanted then grid.get? slot else none) ∧
      ∀ (s : EngineState) (ref : Nat) (session : Session) (menu : Menu) (surface : Surface) (names : List SlotName),
        menu.IsPure → s.placeholders.IsPure → s.ledger.accessors.Sound s.classes →
        s.session? ref = some session → s.menu? session.menu = some menu →
        s.screen.get? (s.actor session.actor).key = some surface →
        (∀ answer t, outcome (refreshSlots ref names) s = (.ok answer, t) →
          answer = true ∧ t.sessions = s.sessions ∧
            (∀ other, other ≠ (s.actor session.actor).key → t.screen.get? other = s.screen.get? other) ∧
            ∃ table title part patched,
              answerOf (s.placeholders.build s.classes (s.actor session.actor) menu (some session.view)) = .ok table ∧
              Placeholder.apply table menu.title = .ok title ∧
              answerOf (menu.layout s.classes (s.actor session.actor) (some session.view) s.placeholders
                (some (names.map (·.slot)))) = .ok part ∧
              t.screen.get? (s.actor session.actor).key = some patched ∧
              surface.PatchedBy title part (names.map (·.slot)) patched) ∧
        ∀ answer u, outcome (refresh ref) s = (.ok answer, u) →
          ∃ t full patched, outcome (refreshSlots ref names) s = (.ok true, t) ∧
            u.screen.get? (s.actor session.actor).key = some full ∧
            t.screen.get? (s.actor session.actor).key = some patched ∧
            surface.PatchedBy full.title full.items (names.map (·.slot)) patched := by
  constructor
  · intro classes actor view p menu wanted before grid pure registered sound full
    rw [(pure.steady_layout registered none before sound).1] at full
    rw [(pure.steady_layout registered (some wanted) before sound).1]
    exact ⟨pure.layout_restrict registered full wanted, grid.get?_restrict wanted⟩
  · intro s ref session menu surface names pure registered sound opened known there
    refine ⟨fun answer t done => ?_, fun answer u done => ?_⟩
    · obtain ⟨isTrue, -, -, title, part, drawn, rfl⟩ :=
        (outcome_redraw_eq_ok_iff pure registered sound opened known).mp done
      rw [EngineState.answerOf_drawing pure registered] at drawn
      obtain ⟨table, built, drawn⟩ := ok_of_bind drawn
      obtain ⟨words, titled, drawn⟩ := ok_of_bind drawn
      obtain ⟨grid, laid, same⟩ := ok_of_bind drawn
      cases same
      refine ⟨isTrue, rfl, fun other different => ?_, table, title, part, _, built, titled, laid,
        screen_of_drawn there title part (some names), surface.patchedBy_draw title part names⟩
      rw [EngineState.drawn_screen, if_neg (Ne.symm different)]
    · obtain ⟨-, keyed, others, title, grid, drawn, rfl⟩ :=
        (outcome_redraw_eq_ok_iff pure registered sound opened known).mp done
      have part := EngineState.drawing_restrict pure registered drawn names
      refine ⟨_, _, _, (outcome_redraw_eq_ok_iff pure registered sound opened known).mpr
        ⟨rfl, keyed, others, title, _, part, rfl⟩, screen_of_drawn there title grid none,
        screen_of_drawn there title _ (some names), ?_⟩
      exact (surface.patchedBy_draw title _ names).congr (grid.agreeOn_restrict (names.map (·.slot)))

/-- A lamp as it is drawn. -/
def lamp : RenderedItem := { key := "lamp", material := "LAMP" }

/-- A hall with a lamp in two slots, which shines for actors of a high level. -/
def hallMenu : Menu where
  id := "hall"
  title := "Hall of \x7bplayer\x7d"
  size := 9
  items := [("lamp", {
    template := { material := "LAMP" }
    slots := [0, 1]
    predicate := some (.levelAtLeast 5 (.bool true) (.bool false)) })]

/-- An engine in which an actor who has lost the level still sees the lamp in both slots. -/
def darkHall : EngineState :=
  { smallShop with
    menus := [("hall", hallMenu)]
    sessions := [(.text "ann", { actor := 0, menu := "hall" })]
    screen := [(.text "ann", {
      number := 0, actor := .text "ann", title := "Hall", size := 9, items := [(0, lamp), (1, lamp)], renders := 1 })] }

end

/-- For an actor of the level a layout of the second slot is what the full one has there. For the other actor a refresh
of the first slot, which is named twice and along with slots outside, empties it, and leaves the lamp in the second
slot that a full refresh would take away as well. -/
theorem refreshSlots_darkHall :
    let ben : Actor := { id := .text "ben", name := .text "Ben", level := .int 9 }
    ((hallMenu.layout {} ben none {} (some [1, 1, -3])).run.run {}).1 = .ok [(1, lamp)] ∧
      ∃ t patched,
        outcome (refreshSlots 0 [.number 0, .truth false, .number (-1), .number 99]) darkHall = (.ok true, t) ∧
          t.screen.get? (.text "ann") = some patched ∧ patched.title = "Hall of Ann" ∧ patched.renders = 2 ∧
          patched.items.get? 0 = none ∧ patched.items.get? 1 = some lamp := by
  intro ben
  obtain ⟨parts, patches⟩ := refreshSlots_patches
  have pure : hallMenu.IsPure := by
    constructor
    · intro pair member
      cases List.mem_singleton.mp member
      refine ⟨by simp, ?_⟩
      rintro resolver ⟨⟩
      rfl
    · rintro pages ⟨⟩
  have registered : Placeholders.IsPure {} := ⟨by simp, by simp, by simp, by simp⟩
  have bright : ((hallMenu.layout {} ben none {} none).run.run {}).1 = .ok [(0, lamp), (1, lamp)] := by
    have drawn : ((hallMenu.layout {} ben none {} none).run.run {}).1.toOption.map id =
        some [(0, lamp), (1, lamp)] := by
      decide +kernel
    obtain ⟨grid, after, laid, rfl⟩ := answered_of_map drawn
    exact congrArg Prod.fst laid
  have dark : ((outcome (refresh 0) darkHall).1.toOption,
      ((outcome (refresh 0) darkHall).2.screen.get? (.text "ann")).map fun full => (full.title, full.items)) =
      (some true, some ("Hall of Ann", [])) := by
    decide +kernel
  refine ⟨(parts {} ben none {} hallMenu [1, 1, -3] {} _ pure registered sound_nil bright).1, ?_⟩
  obtain ⟨-, whenever⟩ := patches darkHall 0 _ hallMenu _ [.number 0, .truth false, .number (-1), .number 99] pure
    registered sound_nil rfl rfl rfl
  rcases done : outcome (refresh 0) darkHall with ⟨cause | answer, u⟩
  · rw [done] at dark
    cases dark
  · obtain ⟨t, full, patched, refreshed, fullThere, there, isPatched⟩ := whenever answer u done
    have shown : u.screen.get? (.text "ann") = some full := fullThere
    rw [done] at dark
    simp only [shown, Option.map_some, Prod.mk.injEq, Option.some.injEq] at dark
    obtain ⟨-, title, items⟩ := dark
    refine ⟨t, patched, refreshed, there, isPatched.title.trans title, isPatched.renders, ?_, ?_⟩
    · rw [isPatched.drawn 0 (by decide), items]
      rfl
    · exact isPatched.kept 1 (by decide)

end ChestMenu
