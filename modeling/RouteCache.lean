import RouteCache.Arithmetic
import RouteCache.Cache.Basic
import RouteCache.Cache.Deadlines
import RouteCache.Cache.Shelf
import RouteCache.Cache.Tally
import RouteCache.Decimal
import RouteCache.Export
import RouteCache.Fault
import RouteCache.Grid.Line
import RouteCache.Grid.Slot
import RouteCache.Json
import RouteCache.Main
import RouteCache.Proofs.Cache.Accounts
import RouteCache.Proofs.Cache.Consistent
import RouteCache.Proofs.Cache.Counters
import RouteCache.Proofs.Cache.Dealings
import RouteCache.Proofs.Cache.Entries
import RouteCache.Proofs.Cache.Expiry
import RouteCache.Proofs.Cache.Faults
import RouteCache.Proofs.Cache.FirstWriter
import RouteCache.Proofs.Cache.Follows
import RouteCache.Proofs.Cache.Keeps
import RouteCache.Proofs.Cache.Ledger
import RouteCache.Proofs.Cache.Lookups
import RouteCache.Proofs.Cache.Orderly
import RouteCache.Proofs.Cache.Radius
import RouteCache.Proofs.Cache.Refinement
import RouteCache.Proofs.Cache.Register
import RouteCache.Proofs.Cache.Retained
import RouteCache.Proofs.Cache.Retention
import RouteCache.Proofs.Cache.Stray
import RouteCache.Proofs.Cache.Timely
import RouteCache.Proofs.Cache.Total
import RouteCache.Proofs.Grid.Course
import RouteCache.Proofs.Grid.Radius
import RouteCache.Proofs.Grid.Rounded
import RouteCache.Proofs.Grid.Trips
import RouteCache.Proofs.Grid.Ways
import RouteCache.Proofs.Router.Aggregates
import RouteCache.Proofs.Router.Balance
import RouteCache.Proofs.Router.Find
import RouteCache.Proofs.Router.Freshness
import RouteCache.Proofs.Router.Keeps
import RouteCache.Proofs.Router.Once
import RouteCache.Proofs.Router.Orderly
import RouteCache.Proofs.Router.Provenance
import RouteCache.Proofs.Router.Searches
import RouteCache.Proofs.Router.Sharding
import RouteCache.Proofs.Router.Shards
import RouteCache.Proofs.Router.Solo
import RouteCache.Proofs.Router.Transparency
import RouteCache.Proofs.Search.Shortest
import RouteCache.Proofs.Search.Straight
import RouteCache.Proofs.Sequence
import RouteCache.Proofs.Settings.Environment
import RouteCache.Proofs.Simulation.Hits
import RouteCache.Proofs.Simulation.Requests
import RouteCache.Proofs.Simulation.Traversable
import RouteCache.Proofs.Simulation.Units
import RouteCache.Proofs.Sweeper.Lifetime
import RouteCache.Proofs.Sweeper.Moves
import RouteCache.Proofs.Sweeper.Rounds
import RouteCache.Proofs.Sweeper.Running
import RouteCache.Proofs.Sweeper.Runs
import RouteCache.Proofs.Sweeper.Schedule
import RouteCache.Proofs.Sweeper.Ticks
import RouteCache.Proofs.Text.Numeral
import RouteCache.Route
import RouteCache.Router.Basic
import RouteCache.Router.Event
import RouteCache.Router.Shards
import RouteCache.Search.Basic
import RouteCache.Search.Straight
import RouteCache.Settings.Basic
import RouteCache.Settings.Environment
import RouteCache.Simulation
import RouteCache.Single
import RouteCache.Sweeper.Basic
import RouteCache.Sweeper.Step
import RouteCache.Text
