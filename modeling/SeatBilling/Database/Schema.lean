import SeatBilling.Crypto.Sha384

/-!
# The billing schema

The database schema of the billing core, as the one script that creates it: the catalog
(features, plans and the features of each plan), subscriptions, invoices with at most one
pending invoice per company, and the event log. The employees table belongs to the employee
records and is not created here.

A migrator applies the script once and records it under its version with its checksum, the
SHA-384 digest of its text; a recorded checksum that differs means the script was changed
after it was applied.
-/

namespace SeatBilling.Database.Schema

/-- The version the script is recorded under. -/
def version : Int := 20260301000000

/-- What the script does, as its record describes it. -/
def description : String := "billing core"

/-- The script, line by line. -/
def lines : List String := [
    "-- Billing core schema: catalog, subscriptions, invoices, billing events.",
    "-- The employees table belongs to the employee domain and is not created here.",
    "",
    "CREATE TABLE IF NOT EXISTS features (",
    "    code        TEXT PRIMARY KEY,",
    "    name        TEXT NOT NULL",
    ");",
    "",
    "CREATE TABLE IF NOT EXISTS plans (",
    "    id                      TEXT PRIMARY KEY,",
    "    name                    TEXT NOT NULL UNIQUE,",
    "    price                   BIGINT NOT NULL CHECK (price >= 0),",
    "    price_per_extra_seat    BIGINT NOT NULL DEFAULT 0 CHECK (price_per_extra_seat >= 0),",
    "    max_seats_included      INTEGER NOT NULL CHECK (max_seats_included > 0),",
    "    active                  BOOLEAN NOT NULL DEFAULT TRUE,",
    "    created_at              TIMESTAMPTZ NOT NULL DEFAULT NOW()",
    ");",
    "",
    "CREATE TABLE IF NOT EXISTS plan_features (",
    "    plan_id         TEXT NOT NULL REFERENCES plans(id),",
    "    feature_code    TEXT NOT NULL REFERENCES features(code),",
    "    position        INTEGER NOT NULL DEFAULT 0,",
    "    PRIMARY KEY (plan_id, feature_code)",
    ");",
    "",
    "CREATE TABLE IF NOT EXISTS subscriptions (",
    "    id                  UUID PRIMARY KEY,",
    "    company_id          UUID NOT NULL UNIQUE,",
    "    plan_id             TEXT NOT NULL REFERENCES plans(id),",
    "    status              TEXT NOT NULL CHECK (status IN ('trial', 'active', 'past_due', 'cancelled', 'expired')),",
    "    max_seats           INTEGER NOT NULL CHECK (max_seats > 0),",
    "    pending_max_seats   INTEGER CHECK (pending_max_seats IS NULL OR pending_max_seats > 0),",
    "    pending_plan_id     TEXT REFERENCES plans(id),",
    "    period_start        TIMESTAMPTZ NOT NULL,",
    "    period_end          TIMESTAMPTZ NOT NULL,",
    "    version             BIGINT NOT NULL DEFAULT 0,",
    "    created_at          TIMESTAMPTZ NOT NULL DEFAULT NOW(),",
    "    updated_at          TIMESTAMPTZ NOT NULL DEFAULT NOW()",
    ");",
    "",
    "CREATE INDEX IF NOT EXISTS idx_subscriptions_status_period_end",
    "    ON subscriptions (status, period_end);",
    "",
    "CREATE INDEX IF NOT EXISTS idx_subscriptions_pending",
    "    ON subscriptions (period_end)",
    "    WHERE pending_plan_id IS NOT NULL OR pending_max_seats IS NOT NULL;",
    "",
    "CREATE TABLE IF NOT EXISTS invoices (",
    "    id                      UUID PRIMARY KEY,",
    "    company_id              UUID NOT NULL,",
    "    subscription_id         UUID REFERENCES subscriptions(id),",
    "    provider_invoice_id     TEXT UNIQUE,",
    "    invoice_url             TEXT,",
    "    status                  TEXT NOT NULL CHECK (status IN ('pending', 'paid', 'expired', 'cancelled')),",
    "    purpose                 TEXT NOT NULL CHECK (purpose IN ('checkout', 'upgrade', 'seat_change')),",
    "    plan_id                 TEXT NOT NULL REFERENCES plans(id),",
    "    seats                   INTEGER NOT NULL CHECK (seats > 0),",
    "    amount                  BIGINT NOT NULL CHECK (amount >= 0),",
    "    payment_method          TEXT,",
    "    payment_channel         TEXT,",
    "    created_at              TIMESTAMPTZ NOT NULL DEFAULT NOW(),",
    "    expires_at              TIMESTAMPTZ,",
    "    paid_at                 TIMESTAMPTZ",
    ");",
    "",
    "-- At most one pending invoice per tenant (one subscription per tenant)",
    "CREATE UNIQUE INDEX IF NOT EXISTS idx_invoices_one_pending_per_company",
    "    ON invoices (company_id)",
    "    WHERE status = 'pending';",
    "",
    "CREATE INDEX IF NOT EXISTS idx_invoices_company_created",
    "    ON invoices (company_id, created_at DESC);",
    "",
    "CREATE TABLE IF NOT EXISTS billing_events (",
    "    id                  UUID PRIMARY KEY,",
    "    company_id          UUID NOT NULL,",
    "    subscription_id     UUID,",
    "    invoice_id          UUID,",
    "    event_type          TEXT NOT NULL,",
    "    actor_type          TEXT NOT NULL,",
    "    data                JSONB NOT NULL DEFAULT '\x7b\x7d'::jsonb,",
    "    created_at          TIMESTAMPTZ NOT NULL DEFAULT NOW()",
    ");",
    "",
    "CREATE INDEX IF NOT EXISTS idx_billing_events_company",
    "    ON billing_events (company_id, created_at DESC);",
    ""]

/-- The script. -/
def script : String := "\n".intercalate lines

/-- The checksum of the script: the SHA-384 digest of its UTF-8 bytes. -/
def checksum : List UInt8 := Crypto.Sha384.hash script.toUTF8.toList

end SeatBilling.Database.Schema
