import CookieConsent.Banner.Basic
import CookieConsent.Cookie.Record
import CookieConsent.Error
import CookieConsent.Jar.Snapshot
import CookieConsent.Proofs.Banner.Loading
import CookieConsent.Proofs.Banner.Recording
import CookieConsent.Proofs.Banner.Showing
import CookieConsent.Proofs.Cookie.Assignments
import CookieConsent.Proofs.Cookie.Attributes
import CookieConsent.Proofs.Cookie.Entries
import CookieConsent.Proofs.Cookie.Malformed
import CookieConsent.Proofs.Cookie.Padding
import CookieConsent.Proofs.Jar.Header
import CookieConsent.Proofs.Jar.Independence
import CookieConsent.Proofs.Jar.Lifetimes
import CookieConsent.Proofs.Jar.Purging
import CookieConsent.Proofs.Jar.Reachable
import CookieConsent.Proofs.Jar.Setting
import CookieConsent.Proofs.Jar.Snapshots
import CookieConsent.Proofs.Jar.Table
import CookieConsent.Proofs.Jar.Writing
import CookieConsent.Proofs.Json.Leaves
import CookieConsent.Proofs.Json.RoundTrip
import CookieConsent.Proofs.Json.Stored
import CookieConsent.Proofs.Page.Classes
import CookieConsent.Proofs.Page.HtmlReader
import CookieConsent.Proofs.Page.Removing
import CookieConsent.Proofs.Page.Unambiguous
import CookieConsent.Proofs.Session.Batches
import CookieConsent.Proofs.Session.Failures
import CookieConsent.Proofs.Session.FirstClick
import CookieConsent.Proofs.Session.OneBanner
import CookieConsent.Proofs.Session.Queueing
import CookieConsent.Proofs.Session.Remembering
import CookieConsent.Proofs.Session.Running
import CookieConsent.Proofs.Session.Visits
import CookieConsent.Proofs.Storage.Agreement
import CookieConsent.Proofs.Storage.Keeping
import CookieConsent.Proofs.Text.Reading
import CookieConsent.Proofs.Text.SinglePass
import CookieConsent.Proofs.Text.Spellings
import CookieConsent.Proofs.Text.Tokens
import CookieConsent.Proofs.Text.Trimming
import CookieConsent.Proofs.Text.Words
import CookieConsent.Proofs.Time.Advancing
import CookieConsent.Proofs.Time.Capping
import CookieConsent.Proofs.Time.Dates
import CookieConsent.Proofs.Time.Expiries
import CookieConsent.Proofs.Time.Timestamps
import CookieConsent.Proofs.Tracker.Script
import CookieConsent.Session.Basic
import CookieConsent.Storage.File
import CookieConsent.Storage.Flaky
import CookieConsent.Storage.Memory
import CookieConsent.Tracker.Snippet
