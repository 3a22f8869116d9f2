import UserAccounts.Time.Span

/-!
# Settings of the database

Where the database is and how its connections are pooled.
-/

namespace UserAccounts

/-- How the store is connected to its database. -/
structure StoreSettings where
  databaseUrl : String
  /-- The largest number of connections at a time. -/
  maxConnections : Nat
  /-- How long a call may wait for a connection. -/
  acquireTimeout : Span
  deriving DecidableEq

/-- The settings for a database where nothing else is said. -/
def StoreSettings.new (databaseUrl : String) : StoreSettings :=
  ⟨databaseUrl, 10, .ofMillis 5000⟩

end UserAccounts
