import BridgeOfHope.Checkout
import BridgeOfHope.Correspondence
import BridgeOfHope.Deliveries
import BridgeOfHope.Process.Termination
import BridgeOfHope.Duplicates
import BridgeOfHope.Announcements
import BridgeOfHope.Instructions
import BridgeOfHope.Process.Solo
import BridgeOfHope.Admin.RateLimiter
import BridgeOfHope.Admin.Service
import BridgeOfHope.Admin.Conduct
import BridgeOfHope.Admin.Sessions
import BridgeOfHope.Admin.Throttling
import BridgeOfHope.Admin.Buckets
import BridgeOfHope.Admin.Drafts
import BridgeOfHope.Boot
import BridgeOfHope.EventLog
import BridgeOfHope.Donations.Rails
import BridgeOfHope.Subscriptions.Lifecycle
import BridgeOfHope.Subscriptions.Picks
import BridgeOfHope.Subscriptions.Frozen
import BridgeOfHope.Ledger.Calls
import BridgeOfHope.Webhooks.Identifiers
import BridgeOfHope.Subscriptions.Isolation
import BridgeOfHope.Ledger.Intake
import BridgeOfHope.Subscriptions.OneClick
import BridgeOfHope.Subscriptions.Confirmed
import BridgeOfHope.Payments.Amount
import BridgeOfHope.Limits
import BridgeOfHope.Donations.Giver
import BridgeOfHope.Donations.Declined
import BridgeOfHope.Subscriptions.Repeated
import BridgeOfHope.Consent
import BridgeOfHope.Webhooks.Recovery
import BridgeOfHope.Donations.Named
import BridgeOfHope.Donations.Answered
import BridgeOfHope.Donations.Completion
import BridgeOfHope.Subscriptions.Charges
import BridgeOfHope.SideChannels
import BridgeOfHope.SideChannels.Cancellations
import BridgeOfHope.SideChannels.Gifts
import BridgeOfHope.SideChannels.Independence
import BridgeOfHope.Bytes.BigEndian
import BridgeOfHope.Models.Base
import BridgeOfHope.Payments.Decimal
import BridgeOfHope.Urllib.Query
import BridgeOfHope.DatabaseUrl
import BridgeOfHope.LockOrder
import BridgeOfHope.GivingHistory
import BridgeOfHope.Admin.Listings
import BridgeOfHope.Admin.Accounts
import BridgeOfHope.Select.Pages
import BridgeOfHope.Admin.Authorship
import BridgeOfHope.Admin.Links
import BridgeOfHope.Admin.Paging
import BridgeOfHope.Base64
import BridgeOfHope.Conversations
