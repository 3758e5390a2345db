import BuildFarm.Artifacts
import BuildFarm.Config
import BuildFarm.Queue

namespace BuildFarm

structure Services where
  queue : Queue
  artifacts : Artifacts

namespace Services

def ofStore (s : Store) (artifacts : Artifacts) : Services :=
  ⟨.ofStore s,artifacts⟩

def disk (s : Services) : Disk :=
  s.queue.store.disk

def withDisk (s : Services) (d : Disk) : Services :=
  { s with queue := { s.queue with store := { s.queue.store with disk := d } } }

/-- Opens what a configuration names. -/
def build (c : Config) (disk : Disk) : Except StoreError Services × Disk :=
  match c.store with
  | .memory => (.ok (ofStore (Store.inMemory disk) ⟨c.artifacts⟩),disk)
  | .filesystem root =>
    match Store.openAt root disk with
    | (.ok s,disk) => (.ok (ofStore s ⟨c.artifacts⟩),disk)
    | (.error e,disk) => (.error e,disk)

end Services

end BuildFarm
