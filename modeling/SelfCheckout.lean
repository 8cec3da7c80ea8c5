import SelfCheckout.Inventory.Answers
import SelfCheckout.Inventory.Verdict
import SelfCheckout.Inventory.LowStock
import SelfCheckout.Inventory.Deadlock
import SelfCheckout.Analytics.Gaps
import SelfCheckout.Analytics.Filters
import SelfCheckout.Analytics.Replay
import SelfCheckout.Analytics.Stall
import SelfCheckout.Analytics.Repeats
import SelfCheckout.Analytics.FirstWindow
import SelfCheckout.Outbox.Services
import SelfCheckout.Checkout.Frozen
import SelfCheckout.Saga.Owed
import SelfCheckout.Saga.Fencing
import SelfCheckout.Saga.Answers
import SelfCheckout.Saga.Rollback
import SelfCheckout.Saga.Charge
import SelfCheckout.Saga.Services
import SelfCheckout.Report.Reconciliation
import SelfCheckout.Catalog.Readiness
import SelfCheckout.Relay.Delivery
import SelfCheckout.Relay.Incarnations
import SelfCheckout.Relay.Grace
import SelfCheckout.Bus.Order
import SelfCheckout.Bus.Poison
import SelfCheckout.Lease.Admission
import SelfCheckout.Checkout.TxId
import SelfCheckout.Bus.Producer
import SelfCheckout.Bus.Replies
import SelfCheckout.Bus.EventCodec
import SelfCheckout.Analytics.Supervisor
import SelfCheckout.Analytics.OnDemand
import SelfCheckout.Catalog.Seed
import SelfCheckout.LoadClient.Json
import SelfCheckout.Checkout.HotPath
import SelfCheckout.Analytics.Drain
import SelfCheckout.Saga.Progress
import SelfCheckout.Saga.Recovery
import SelfCheckout.Report.Arrived
import SelfCheckout.Inventory.Finish
import SelfCheckout.Inventory.Consumer
import SelfCheckout.Outbox.Drain
import SelfCheckout.Relay.CatchUp
import SelfCheckout.Checkout.Finish
import SelfCheckout.Mock.Counts
import SelfCheckout.LoadClient.Totals
import SelfCheckout.Data.Writing
import SelfCheckout.LoadClient.Report
import SelfCheckout.LoadClient.Wire
