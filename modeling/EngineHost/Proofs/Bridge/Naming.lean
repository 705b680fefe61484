import EngineHost.Proofs.Bridge.Entry

/-!
# The path of a descriptor names its file

A bridge remembers the path by which a file was opened.  While the file is open nobody can remove
it, nor any directory above it, and names are not rebound, so the path goes on naming the file,
whatever is done through other descriptors and other bridges.

* `Fleet.Named` : the path of every descriptor names the file behind it.
* `Fleet.Named.step` : every step of a fleet keeps this.
* `Fleet.run_names` : hence everybody finds the file under every spelling of the path, and nobody
  can delete it or open it again, until its descriptor is closed or its bridge goes.

The proof follows `Tree.Steps.keepsNames`: what a path named it names as long as the node is there,
and the node of an open file is there because it is locked.
-/

namespace EngineHost

open Bridge
open EngineHost.Storage EngineHost.Tree
open Storage (Holding)

variable {a : Allocator}

/-! ### Opening -/

/-- The file that is found to open is the one that the remembered path names. -/
theorem Bridge.names_of_locate {b : Bridge (memory a)} {t t' : Tree} {path : String}
    {flags : OpenFlags} {x : Inode × String} (hroot : b.Rooted)
    (h : locate path flags (b, t) = .ok x (b, t')) : t'.Names x.2 x.1 := by
  obtain ⟨root, p, d, t₁, t₂, hb, hp, hwalk, hfile, hx, hw⟩ := locate_ok_iff.1 h
  obtain rfl := hroot _ hb
  cases hw
  have hleaf := (memory_file_ok_iff.1 hfile).2
  have hparent : t'.descend rootInode p.parents = some d :=
    (keepsChildren_lookupOrCreate hleaf).descend (walk_leads hwalk).2
  refine ⟨p, hx ▸ StoragePath.parse_normalized hp, ?_⟩
  exact descend_concat_iff.2 ⟨d, hparent, child?_of_lookupOrCreate hleaf⟩

/-- Taking the handle of a file and preparing it goes along changes of the tree. -/
theorem Bridge.steps_of_prepare {b : Bridge (memory a)} {t₁ t₂ t₃ : Tree} {i : Inode}
    {h : MemoryAccess} {flags : OpenFlags} (ha : (memory a).acquire i t₁ = .ok h t₂)
    (hp : prepare (S := memory a) h flags (b, t₂) = .ok () (b, t₃)) : Steps t₁ t₃ := by
  have hacquire : Steps t₁ t₂ := by
    have := memory_keeps a .acquire i t₁
    rwa [ha] at this
  have hprepare : Steps t₂ t₃ := by
    have := (prepare_moves (memory_keeps a .truncate) (memory_keeps a .flush)
      (memory_keeps a .size) h flags (b, t₂)).2
    rwa [hp] at this
  exact hacquire.trans hprepare

/-! ### Asking for the root -/

namespace Bridge

/-- The storage in memory always has its root, so a bridge that asked for it has it. -/
def Asked (b : Bridge (memory a)) : Prop := b.probed = true → b.root = some rootInode

theorem Asked.new : (Bridge.new : Bridge (memory a)).Asked := nofun

theorem Asked.perform {w : Bridge (memory a) × Tree} (hw : w.1.Asked) (op : BridgeOp) :
    (op.perform w).2.1.Asked := by
  by_cases hprobe : op = .probe
  · subst hprobe
    obtain ⟨b, t⟩ := w
    change (Bridge.probe (b, t)).2.1.Asked
    cases hb : b.probed with
    | true =>
      simp only [Bridge.probe, hb, if_true]
      exact hw
    | false =>
      simp only [Bridge.probe, hb, Bool.false_eq_true, if_false]
      exact fun _ => rfl
  · obtain ⟨hroot, hprobed⟩ := op.perform_root_of_ne hprobe w
    rw [Asked, hroot, hprobed]
    exact hw

end Bridge

/-! ### Runs -/

namespace Fleet

variable {f : Fleet (memory a)} {k : Nat} {fd : Int} {file : OpenFile (memory a)}

/-- The path of every descriptor names the file behind it. -/
def Named (f : Fleet (memory a)) : Prop :=
  ∀ k fd file, f.file? k fd = some file →
    f.store.Names file.path (MemoryAccess.inode file.handle)

/-- The file behind a descriptor is held. -/
theorem Ready.held (hf : f.Ready) (h : f.file? k fd = some file) :
    MemoryAccess.inode file.handle ∈ f.store.locked :=
  (hf.sound.exclusive.held_iff _).2 ⟨(k, fd), by rw [behind, h]; rfl⟩

/-- The file behind a descriptor is there. -/
theorem Ready.present (hf : f.Ready) (h : f.file? k fd = some file) :
    f.store.Present (MemoryAccess.inode file.handle) := by
  obtain ⟨data, hdata⟩ := hf.held h
  exact ⟨_, hdata⟩

/-- **Every step of a fleet keeps the paths of its descriptors true.** -/
theorem Named.step (hn : f.Named) (hf : f.Ready) (op : FleetOp) : (f.step op).Named := by
  intro k fd file h
  have hthere := (hf.step op).present h
  rcases file?_step h with hold | ⟨b, path, flags, x, t₁, t₂, hb, -, hl, ha, hp, hpath⟩
  · exact (hn k fd file hold).of_steps (hf.present hold) (step_keeps (memory_keeps a) f op) hthere
  · -- the file that was opened is the one that was found
    obtain ⟨hlock, hhandle⟩ := memory_acquire_ok_iff.1 ha
    obtain ⟨data, hdata, -⟩ := lock_ok_iff.1 hlock
    have hinode : MemoryAccess.inode file.handle = x.1 := congrArg MemoryAccess.inode hhandle
    have hnames : t₁.Names file.path (MemoryAccess.inode file.handle) := by
      rw [hpath, hinode]
      exact names_of_locate (hf.rooted hb) hl
    exact hnames.of_steps (hinode ▸ ⟨_, hdata⟩) (steps_of_prepare ha hp) hthere

theorem named_run (a : Allocator) (quota : UInt64) (ops : List FleetOp) :
    Named (a := a) ((start (Tree.empty quota)).run ops) := by
  have hstart : Named (a := a) (start (Tree.empty quota)) :=
    fun _ _ _ h => by cases h
  have hboth := run_keeps (P := fun f : Fleet (memory a) => f.Ready ∧ f.Named)
    (fun op hf => ⟨hf.1.step op, hf.2.step hf.1 op⟩) ⟨ready_start quota, hstart⟩ ops
  exact hboth.2

/-- Every bridge that asked for its root has it. -/
theorem asked_run (a : Allocator) (quota : UInt64) (ops : List FleetOp) {b : Bridge (memory a)}
    (hb : ((start (Tree.empty quota)).run ops).bridges k = some b) : b.Asked := by
  let AllAsked : Fleet (memory a) → Prop := fun f => ∀ k b, f.bridges k = some b → b.Asked
  have hstep : ∀ {f : Fleet (memory a)} (op : FleetOp), AllAsked f → AllAsked (f.step op) :=
    fun op hf _ _ hb => bridges_step (P := Asked) Asked.new (fun op _ hw => hw.perform op)
      (hf _ _) op hb
  have hstart : AllAsked (start (Tree.empty quota)) := fun _ _ h => by cases h
  exact run_keeps hstep hstart ops k b hb

/-- A file stays open through every run that spares its descriptor. -/
theorem Ready.file?_run (hf : f.Ready) (h : f.file? k fd = some file) {ops : List FleetOp}
    (hops : ∀ op ∈ ops, op.Spares k fd) : (f.run ops).file? k fd = some file := by
  induction ops generalizing f with
  | nil => exact h
  | cons op ops ih =>
    have hstep : (f.step op).file? k fd = some file :=
      file?_step_of_spares (hops op (List.mem_cons_self ..)) hf.sound.numbered h
    exact ih (hf.step op) hstep fun op' hop' => hops op' (List.mem_cons_of_mem _ hop')

/-- Everybody finds an open file under every spelling of its path, and nobody can delete it or open
it again; nothing changes by trying. -/
theorem Ready.shut (hf : f.Ready) {i : Inode} {path : String} {b : Bridge (memory a)}
    (hi : i ∈ f.store.locked) (hnames : f.store.Names path i) (hb : f.bridges k = some b)
    (hroot : b.root = some rootInode) :
    f.act k (Bridge.access path) = some (1, f) ∧ f.act k (Bridge.delete path) = some (-10, f) ∧
      ∀ flags, f.act k (Bridge.openFile path flags) = some (-1, f) := by
  obtain ⟨data, hdata⟩ := hi
  have haccess := access_of_named hroot hf.grown.wellFormed hnames hdata
  have hdelete := delete_of_held hroot hf.grown.wellFormed hnames hdata
  have hopen := openFile_of_held hroot hf.grown.wellFormed hnames hdata
  refine ⟨?_, ?_, fun flags => ?_⟩
  · rw [act_of_bridge hb, haccess, put_self hb]
    rfl
  · rw [act_of_bridge hb, hdelete, put_self hb]
    rfl
  · rw [act_of_bridge hb, hopen, put_self hb]
    rfl

/-- **The path of a descriptor names its file in every reachable state**: it reads as a path, and
walking its names from the root leads to the file behind the descriptor.  Under every spelling of it
and for every bridge that asked for its root, the file is there, it cannot be deleted and it cannot
be opened again.  This stays so until the descriptor is closed or its bridge goes. -/
theorem run_names (a : Allocator) (quota : UInt64) (ops : List FleetOp) :
    let f : Fleet (memory a) := (start (Tree.empty quota)).run ops
    ∀ k fd i, f.behind (Holding.memory a) (k, fd) = some i →
      ∃ b path p, f.bridges k = some b ∧ b.pathOf fd = some path ∧
        StoragePath.parse path = some p ∧
        f.store.descend rootInode (p.parents ++ [p.fileName]) = some i ∧
        (∀ j c spelling q, f.bridges j = some c → c.probed = true →
          StoragePath.parse spelling = some q → q.parents = p.parents → q.fileName = p.fileName →
          f.act j (Bridge.access spelling) = some (1, f) ∧
          f.act j (Bridge.delete spelling) = some (-10, f) ∧
          ∀ flags, f.act j (Bridge.openFile spelling flags) = some (-1, f)) ∧
        ∀ ops', (∀ op ∈ ops', op.Spares k fd) →
          (f.run ops').behind (Holding.memory a) (k, fd) = some i ∧
          ((f.run ops').bridges k).bind (·.pathOf fd) = some path := by
  intro f k fd i hi
  have hf : f.Ready := ready_run a quota ops
  have hn : f.Named := named_run a quota ops
  obtain ⟨file, hfile, rfl⟩ := Option.map_eq_some_iff.1 hi
  obtain ⟨b, hb, hfd⟩ := file?_eq_some_iff.1 hfile
  obtain ⟨p, hp, hd⟩ := hn k fd file hfile
  have hheld := hf.held hfile
  refine ⟨b, file.path, p, hb, by rw [pathOf, hfd]; rfl, hp, hd, ?_, fun ops' hops => ?_⟩
  · intro j c spelling q hc hprobed hq hparents hname
    have hnames : f.store.Names spelling (MemoryAccess.inode file.handle) :=
      ⟨q, hq, by rw [hparents, hname]; exact hd⟩
    exact hf.shut hheld hnames hc (asked_run a quota ops hc hprobed)
  · have hkept := hf.file?_run hfile hops
    obtain ⟨b', hb', hfd'⟩ := file?_eq_some_iff.1 hkept
    refine ⟨by rw [behind, hkept]; rfl, ?_⟩
    rw [hb', Option.bind_some, pathOf, hfd']
    rfl

end Fleet

end EngineHost
