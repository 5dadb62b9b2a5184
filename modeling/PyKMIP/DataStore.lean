import PyKMIP.Lib.Table
import PyKMIP.Objects

/-!
# The data store

The session of a batch is a working copy of the committed rows.  Changes of a
loaded object stay in the working copy until any later commit flushes them.
-/

namespace PyKMIP

/-- The committed rows, the working copy of the session, and whether the
session still accepts queries.  Every committed row has been flushed once. -/
structure DataStore where
  committed : Table ManagedObject
  session : Table ManagedObject
  active : Bool
  stored : committed.Forall fun managedObject => managedObject.storable
deriving DecidableEq

namespace DataStore

/-- The database before its first row. -/
def empty : DataStore where
  committed := .empty
  session := .empty
  active := true
  stored := by simp [Table.Forall, Table.empty]

variable (dataStore : DataStore)

/-- A new session begins with the committed rows. -/
def openSession : DataStore :=
  { dataStore with session := dataStore.committed, active := true }

/-- Leaving the session drops what was not committed. -/
def closeSession : DataStore :=
  { dataStore with session := dataStore.committed, active := true }

/-- The insert of an object without a policy name uses the column default. -/
def withColumnDefaults (managedObject : ManagedObject) : ManagedObject :=
  { managedObject with
    operationPolicyName :=
      some (managedObject.operationPolicyName.getD "default") }

def add (managedObject : ManagedObject) : DataStore :=
  { dataStore with
    session := dataStore.session.insert (withColumnDefaults managedObject) }

def change (uniqueIdentifier : Nat) (managedObject : ManagedObject) :
    DataStore :=
  { dataStore with
    session := dataStore.session.update uniqueIdentifier fun _ => managedObject }

def delete (uniqueIdentifier : Nat) : DataStore :=
  { dataStore with session := dataStore.session.remove uniqueIdentifier }

/-- A commit through an inactive session raises; one that cannot flush a row
raises and leaves the session inactive.  Both drop the working copy. -/
def commit : Except PyError Unit × DataStore :=
  if dataStore.active = false then
    (.error (.python .pendingRollbackError),
      { dataStore with session := dataStore.committed })
  else if flushed :
      dataStore.session.Forall fun managedObject => managedObject.storable then
    (.ok (),
      { dataStore with committed := dataStore.session, stored := flushed })
  else
    (.error (.python .overflowError),
      { dataStore with session := dataStore.committed, active := false })

end DataStore

end PyKMIP
